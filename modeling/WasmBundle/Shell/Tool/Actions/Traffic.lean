import WasmBundle.Shell.Tool.Actions.Machine
import WasmBundle.Shell.Tool.Invocation

/-!
# What goes in and out

The inputs of a program of actions and its outputs: files, commands of the shell and what the
program itself reads and prints. What goes out waits until something has to see it.
-/

namespace WasmBundle.Shell.Actions.Machine

open Running

def shellPlace : String := "/bin/sh"

/-- Runs a command of the shell; its status, to which the number of a signal that killed it adds
256. -/
def runCommand (r : Runner) (text : String) : Running Nat :=
  tryCatch (do
      match ← r.start shellPlace [shellPlace, "-c", text] with
      | .ok status => return status
      | .error _ => return 127)
    fun
    | .killed signal => return 256 + signal
    | e => throw e

def runWith (r : Runner) (text : String) (b : Bytes) : Running Nat := do
  let before := (← get).descriptors
  connect 0 (← addStream (.source b))
  let status ← runCommand r text
  modify fun p => { p with descriptors := before }
  return status

def outputOf (r : Runner) (text : String) : Running (Bytes × Nat) := do
  let before := (← get).descriptors
  let stream ← addStream (.sink [])
  connect 1 stream
  let status ← runCommand r text
  modify fun p => { p with descriptors := before }
  return (← Subshell.collected stream, status)

def emit (text : String) : Work Unit := modify fun m => { m with printed := text :: m.printed }

def flushPrinted : Work Unit := do
  let parts := (← get).printed
  modify fun m => { m with printed := [] }
  perform (print (String.join parts.reverse))

def writeOut (o : Outlet) : Running Unit := do
  if !o.parts.isEmpty then
    match (← get).streams[o.stream]? with
    | some s =>
      let _ ← writeStream o.stream s (octets (String.join o.parts.reverse))
    | none => return ()

def flushFile (o : Outlet) : Work Outlet := do
  if o.isCommand then return o
  else
    perform (writeOut o)
    return { o with parts := [] }

/-- Writes and prints everything that waits for it but for what commands are to read. -/
def flushAll : Work Unit := do
  let l ← (← get).outlets.mapM flushFile
  modify fun m => { m with outlets := l }
  flushPrinted

/-- Closes an output; the status of its command. -/
def closeOutlet (r : Runner) (o : Outlet) : Work Nat := do
  if o.isCommand then
    flushAll
    perform (runWith r o.name (octets (String.join o.parts.reverse)))
  else
    perform (writeOut o)
    return 0

def isOwnOutput (name : String) : Bool := name = "-" ∨ name = "/dev/stdout"

def openFault {α : Type} (name : String) (e : IoError) : Work α :=
  throw (.fault ("cannot open \"" ++ name ++ "\" for output (" ++ e.reason ++ ")"))

/-- Opens a file to be written, from its start or at its end. -/
def openOutlet (name : String) (appends : Bool) : Work Outlet := do
  match ← perform (Channels.openFile (if appends then .append else .overwrite) name) with
  | .ok .directory => openFault name .isDirectory
  | .ok s => return { name, stream := ← perform (addStream s) }
  | .error e => openFault name e

inductive Way where
  | file (appends : Bool)
  | command
  deriving DecidableEq, Repr

/-- Sends a text to a file or a command, which is opened if need be and comes first from then on. -/
def send (way : Way) (name text : String) : Work Unit := do
  let isCommand := way == .command
  if !isCommand ∧ isOwnOutput name then emit text
  else if !isCommand ∧ name = "/dev/stderr" then perform (printError text)
  else
    let isMeant := fun (o : Outlet) => o.name == name && o.isCommand == isCommand
    let found? := (← get).outlets.find? isMeant
    let o ←
      match found?, way with
      | some o, _ => pure o
      | none, .command => do
        flushAll
        pure { name, isCommand }
      | none, .file appends => openOutlet name appends
    modify fun m =>
      { m with
        outlets := { o with parts := text :: o.parts } :: m.outlets.filter fun o => !isMeant o }

/-- Closes whatever is open under a name; the last status, or -1 if nothing is. -/
def closeNamed (r : Runner) (name : String) : Work Int := do
  let outlets := (← get).outlets.filter (·.name == name)
  let intakes := (← get).intakes.filter (·.name == name)
  modify fun m =>
    { m with
      outlets := m.outlets.filter (·.name != name)
      intakes := m.intakes.filter (·.name != name) }
  let statuses ← outlets.mapM (closeOutlet r)
  let all := statuses ++ intakes.map fun i => i.status.getD 0
  return (all.getLast?.map Int.ofNat).getD (-1)

/-- Closes all outputs: commands first, then the files and what is printed. -/
def closeAll (r : Runner) : Work Unit := do
  let l := (← get).outlets
  modify fun m => { m with outlets := [] }
  for o in l do
    if o.isCommand then
      let _ ← perform (runWith r o.name (octets (String.join o.parts.reverse)))
  for o in l do
    if !o.isCommand then perform (writeOut o)
  flushPrinted

/-- Writes what waits for a name; whether something is open under it. -/
def flushNamed (name : String) : Work Bool := do
  if isOwnOutput name then
    flushPrinted
    return true
  else if name = "/dev/stderr" then return true
  else
    let l := (← get).outlets
    let written ← l.mapM fun (o : Outlet) => do if o.name = name then flushFile o else return o
    modify fun m => { m with outlets := written }
    return l.any (·.name == name)

def readFault {α : Type} (e : IoError) : Work α :=
  throw (.fault ("read error (" ++ e.reason ++ ")"))

def charsOf (b : Bytes) : Array Char := (b.map fun x => Char.ofNat x.toNat).toArray

/-- Opens a file to be read; none if it cannot be opened. -/
def openIntake? (name : String) : Work (Except IoError Intake) := do
  match ← perform (Tool.contentOf name) with
  | .ok b => return .ok { name, text := charsOf b }
  | .error .isDirectory => readFault .isDirectory
  | .error e => return .error e

/-- The next record of an input, and the input behind it. -/
def nextIn (i : Intake) : Work (Option (String × Intake)) := do
  return ((← get).closing.record? i.text i.place).map fun (text, place) =>
    (text, { i with place })

/-- The next record of what is open under a name, or is opened. -/
def nextOf (name : String) (fromCommand : Bool) (opening : Work (Option Intake)) :
    Work (Option (Option String)) := do
  let isMeant := fun (i : Intake) => i.name == name && i.status.isSome == fromCommand
  let i? ←
    match (← get).intakes.find? isMeant with
    | some i => pure (some i)
    | none => opening
  match i? with
  | none => return none
  | some i =>
    let others := (← get).intakes.filter fun i => !isMeant i
    match ← nextIn i with
    | some (text, i) =>
      modify fun m => { m with intakes := i :: others }
      return some (some text)
    | none =>
      modify fun m => { m with intakes := i :: others }
      return some none

/-- The next record of a file; `none` if it cannot be opened. -/
def nextOfFile (name : String) : Work (Option (Option String)) :=
  nextOf name false do
    match ← openIntake? name with
    | .ok i => return some i
    | .error _ => return none

def nextOfCommand (r : Runner) (text : String) : Work (Option (Option String)) :=
  nextOf text true do
    flushAll
    let (b, status) ← perform (outputOf r text)
    return some { name := text, status := some status, text := charsOf b }

def assignment? (text : String) : Option (String × String) :=
  let name := text.toList.takeWhile isNameChar
  match text.toList.drop name.length with
  | '=' :: value =>
    if isName name then some (String.ofList name, String.ofList (unescaped value)) else none
  | _ => none

def begin (i : Intake) : Work Unit := do
  setValue "FILENAME" (.text i.name)
  setValue "FNR" (.number 0)
  modify fun m => { m with main := some i, hadInput := true }

def beginFile (name : String) : Work Unit := do
  match ← openIntake? name with
  | .ok i => begin i
  | .error e => throw (.fault ("cannot open \"" ++ name ++ "\" (" ++ e.reason ++ ")"))

def argumentCount : Work Nat := do
  return (Layout.signedOf ((← get).valueOf "ARGC").toFloat).toNat

def argumentAt (i : Nat) : Work String := do
  let t ← tableOf (.shared "ARGV")
  match ← onTable t fun t => t.find (.whole i) with
  | some v => textOf v
  | none => return ""

/-- Makes the input of the next argument that is one the input in work; whether there is one. The
own input is read if no argument is an input. -/
def beginNext : Nat → Work Bool
  | 0 => return false
  | limit + 1 => do
    let i := (← get).nextInput
    if i < (← argumentCount) then
      modify fun m => { m with nextInput := i + 1 }
      let a ← argumentAt i
      if a.isEmpty then beginNext limit
      else
        match assignment? a with
        | some (name, value) =>
          save (.shared name) (.input value)
          beginNext limit
        | none =>
          beginFile a
          return true
    else if (← get).hadInput then return false
    else
      beginFile "-"
      return true

def nextRecord : Nat → Work (Option String)
  | 0 => return none
  | limit + 1 => do
    match (← get).main with
    | some i =>
      modify fun m => { m with main := none }
      match ← nextIn i with
      | some (text, i) =>
        modify fun m => { m with main := some i }
        countUp "NR"
        countUp "FNR"
        return some text
      | none => nextRecord limit
    | none =>
      if ← beginNext ((← argumentCount) + 1) then nextRecord limit else return none

/-- The next record of the inputs, whichever of them it comes from. -/
def nextMain : Work (Option String) := do nextRecord (2 * (← argumentCount) + 10)

end WasmBundle.Shell.Actions.Machine
