import WasmBundle.Disk.Session
import WasmBundle.Shell.Numeral
import WasmBundle.Shell.Syntax

/-!
# Running shells

The state of a running shell: its variables, functions, options and open descriptors. What is open
is a stream; several descriptors, also those of shells within the shell, can share one.
-/

namespace WasmBundle.Shell

inductive Stream where
  /-- Bytes that are left to be read. -/
  | source (left : Bytes)
  /-- What was written, the last part first. -/
  | sink (parts : List Bytes)
  /-- Nothing to read, and room for everything. -/
  | null
  /-- Zeros without end to read, and room for everything. -/
  | zeros
  /-- Zeros without end to read, and no room for anything. -/
  | full
  | file (number : Nat) (position : Nat) (appends : Bool)
  | directory
  deriving DecidableEq, Repr

structure Variable where
  name : String
  value : Option String := none
  exported : Bool := false
  readOnly : Bool := false
  deriving DecidableEq, Repr

structure Function where
  name : String
  body : Command

/-- A command that was begun beside the shell. What it does is done at once, but the clock of the
shell does not go on by it. -/
structure Task where
  /-- Its place among the tasks, from 1 on. -/
  place : Nat
  /-- The number of its process. -/
  number : Nat
  status : Nat
  /-- When it is at its end. -/
  finish : Int
  /-- The signal that ended it early. -/
  signal : Option Nat := none
  isAwaited : Bool := false
  deriving DecidableEq, Repr

/-- The number every shell takes for that of its own process. -/
def shellNumber : Nat := 1000

structure Process where
  /-- The name that the shell was started under, or that of its script. -/
  name : String
  arguments : List String := []
  bindings : List Variable := []
  functions : List Function := []
  /-- The letters of the options that are set, the last one of their table first. -/
  options : List Char := []
  status : Nat := 0
  /-- The status of the last command that was substituted. -/
  substituted : Nat := 0
  /-- The descriptors, each with the number of its stream. -/
  descriptors : List (Nat × Nat) := []
  streams : List Stream := []
  /-- The actions for signals, by their names. -/
  traps : List (String × String) := []
  /-- Signals that have come and whose actions are still to be run. -/
  pending : List String := []
  line : Nat := 0
  /-- The line up to which the script is read. -/
  lineRead : Nat := 0
  /-- The command of the shell that runs, for messages. -/
  builtin : Option String := none
  /-- What the variables of the functions in progress replaced, the innermost function first. -/
  locals : List (List (String × Option Variable)) := []
  /-- How many loops are in progress. -/
  loops : Nat := 0
  /-- The tasks that are known, the last one first. -/
  tasks : List Task := []
  /-- The number of the last task's process; that of the shell if there was no task. -/
  lastTask : Nat := shellNumber
  /-- The permissions that new files are not given. -/
  mask : Nat := 0o022
  /-- The texts that names stand for when scripts are read. -/
  aliases : List (String × String) := []
  /-- The programs that were found, each with its place. -/
  tracked : List (String × String) := []
  /-- The number of the argument that the reading of options by letters comes to next. -/
  optionIndex : Nat := 1
  /-- Where it stands in the argument before that one; 0 if that is read to its end. -/
  optionPlace : Nat := 0
  /-- Why something could not be printed. -/
  printFault : Option IoError := none

/-- How a command can end what it is part of. -/
inductive Interruption where
  /-- The shell ends. -/
  | exit (status : Nat)
  /-- An error that ends the shell, unless it is one of a command that stands for itself. -/
  | fault (status : Nat)
  /-- A signal ends the shell. -/
  | killed (signal : Nat)
  /-- The function or the sourced script ends. -/
  | leave (status : Nat)
  /-- So many loops end. -/
  | leaveLoops (levels : Nat)
  /-- So many loops end but for the last one, which goes on with its next turn. -/
  | nextTurn (levels : Nat)
  deriving DecidableEq, Repr

abbrev Running := ExceptT Interruption (StateT Process OnDisk)

namespace Running

/-- Work on the disk, whose failures are values. -/
def onDisk {α : Type} (work : OnDisk α) : Running α := ExceptT.lift (StateT.lift work)

def disk : Running Disk := do return (← onDisk get).disk

def setDisk (d : Disk) : Running Unit := onDisk (modify fun s => { s with disk := d })

def awaitTime (time : Int) : Running Unit := do
  let d ← disk
  if d.clock < time then setDisk { d with clock := time }

/-- The permissions that something new is given of those wanted for it. -/
def unmasked (p : Process) (wanted : Nat) : Nat := wanted - (wanted &&& p.mask)

/-- Writes a file, new or not. -/
def writeFile (path : Path) (b : Bytes) : Running (Except IoError Unit) := do
  onDisk (OnDisk.write path b (unmasked (← get) 0o666))

def streamOf? (p : Process) (descriptor : Nat) : Option (Nat × Stream) := do
  let i ← p.descriptors.lookup descriptor
  let s ← p.streams[i]?
  return (i, s)

def setStream (i : Nat) (s : Stream) : Running Unit :=
  modify fun p => { p with streams := p.streams.set i s }

/-- Adds a stream; its number. -/
def addStream (s : Stream) : Running Nat := do
  let i := (← get).streams.length
  modify fun p => { p with streams := p.streams ++ [s] }
  return i

def connect (descriptor stream : Nat) : Running Unit :=
  modify fun p =>
    { p with descriptors := (descriptor, stream) :: p.descriptors.filter (·.1 != descriptor) }

def disconnect (descriptor : Nat) : Running Unit :=
  modify fun p => { p with descriptors := p.descriptors.filter (·.1 != descriptor) }

def held (number : Nat) : Running Bytes := do
  return (((← onDisk get).disk.files[number]?).map DiskFile.content).getD []

/-- Bytes with others put over them from a position on. -/
def overlay (before : Bytes) (position : Nat) (b : Bytes) : Bytes :=
  let kept := before.take position
  kept ++ List.replicate (position - kept.length) 0 ++ b ++ before.drop (position + b.length)

def store (number : Nat) (b : Bytes) : Running Unit :=
  onDisk (modify fun s => { s with disk := s.disk.put number b })

def writeStream (i : Nat) (s : Stream) (b : Bytes) : Running (Except IoError Unit) := do
  match s with
  | .sink parts =>
    setStream i (.sink (b :: parts))
    return .ok ()
  | .file n position appends =>
    let before ← held n
    let position := if appends then before.length else position
    store n (overlay before position b)
    setStream i (.file n (position + b.length) appends)
    return .ok ()
  | .full => return if b.isEmpty then .ok () else .error .noSpace
  | .null => return .ok ()
  | .zeros => return .ok ()
  | _ => return .error .badDescriptor

def write (descriptor : Nat) (b : Bytes) : Running (Except IoError Unit) := do
  match streamOf? (← get) descriptor with
  | none => return .error .badDescriptor
  | some (i, s) => writeStream i s b

/-- Everything that is left to be read from a descriptor. -/
def readAll (descriptor : Nat) : Running (Except IoError Bytes) := do
  match streamOf? (← get) descriptor with
  | none => return .error .badDescriptor
  | some (i, .source left) =>
    setStream i (.source [])
    return .ok left
  | some (i, .file n position appends) =>
    let b := (← held n).drop position
    setStream i (.file n (position + b.length) appends)
    return .ok b
  | some (_, .sink _) => return .error .badDescriptor
  | some (_, .directory) => return .error .isDirectory
  | some _ => return .ok []

/-- Gives back bytes that were read too much. -/
def giveBack (descriptor : Nat) (b : Bytes) : Running Unit := do
  match streamOf? (← get) descriptor with
  | some (i, .source left) => setStream i (.source (if left.isEmpty then b else b ++ left))
  | some (i, .file n position appends) => setStream i (.file n (position - b.length) appends)
  | _ => return ()

/-- The next line, and whether a line end closes it. -/
def readLine (descriptor : Nat) : Running (Except IoError (Bytes × Bool)) := do
  match ← readAll descriptor with
  | .error e => return .error e
  | .ok b =>
    let line := b.takeWhile (· ≠ 10)
    match b.drop line.length with
    | [] => return .ok (line, false)
    | _ :: rest =>
      giveBack descriptor rest
      return .ok (line, true)

/-- Prints bytes; that it was not possible is kept. -/
def printBytes (b : Bytes) : Running Unit := do
  if !b.isEmpty then
    match ← write 1 b with
    | .ok () => return ()
    | .error e => modify fun p => { p with printFault := some e }

def print (text : String) : Running Unit := printBytes (octets text)

def printError (text : String) : Running Unit := do
  let _ ← write 2 (octets text)

def warn (text : String) : Running Unit := do
  let p ← get
  let place := p.name ++ ": " ++ toString p.line ++ ": "
  let command := (p.builtin.map (· ++ ": ")).getD ""
  printError (place ++ command ++ text ++ "\n")

/-- An error of the shell, with a message. -/
def fail {α : Type} (text : String) : Running α := do
  warn text
  throw (.fault 2)

/-- A message of another program, and the status of its failure. -/
def complain (program text : String) : Running Nat := do
  printError (program ++ ": " ++ text ++ "\n")
  return 1

def variableNamed? (p : Process) (name : String) : Option Variable :=
  p.bindings.find? (·.name == name)

def value? (p : Process) (name : String) : Option String := do
  let v ← variableNamed? p name
  v.value

def hasOption (p : Process) (c : Char) : Bool := p.options.contains c

/-- Forgets where programs are, if a variable is changed that tells it. -/
def forgetTracked (name : String) : Running Unit :=
  modify fun p => if name = "PATH" then { p with tracked := [] } else p

/-- Changes a variable, which is new if there is none of the name. -/
def change (name : String) (edit : Variable → Variable) : Running Unit :=
  modify fun p =>
    if (variableNamed? p name).isSome then
      { p with bindings := p.bindings.map fun v => if v.name = name then edit v else v }
    else { p with bindings := p.bindings ++ [edit { name := name }] }

def assign (name value : String) : Running Unit := do
  let p ← get
  if (variableNamed? p name).any (·.readOnly) then fail (name ++ ": is read only")
  else
    change name fun v => { v with value := some value, exported := v.exported || hasOption p 'a' }
    forgetTracked name
    if name = "OPTIND" then
      modify fun p =>
        { p with optionIndex := max 1 ((Numeral.count? value).getD 1), optionPlace := 0 }

/-- Gives the arguments new values; the reading of options starts again. -/
def setArguments (arguments : List String) : Running Unit :=
  modify fun p => { p with arguments := arguments, optionIndex := 1, optionPlace := 0 }

def unassign (name : String) : Running Unit := do
  if (variableNamed? (← get) name).any (·.readOnly) then fail (name ++ ": is read only")
  else
    modify fun p => { p with bindings := p.bindings.filter (·.name != name) }
    forgetTracked name

/-- The variables that programs are given. -/
def environment (p : Process) : List (String × String) :=
  p.bindings.filterMap fun v => if v.exported then v.value.map fun x => (v.name, x) else none

def restore (name : String) (before : Option Variable) : Running Unit := do
  modify fun p =>
    { p with bindings := p.bindings.filter (·.name != name) ++ before.toList }
  forgetTracked name

end Running

end WasmBundle.Shell
