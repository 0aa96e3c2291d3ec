import WasmBundle.Shell.Program
import WasmBundle.Shell.Subshell
import WasmBundle.Shell.Tool.Quoting

/-!
# Tools

A tool is a program of the system. It is told the name it was started under, which its messages
begin with, and its arguments. Options may stand anywhere among the operands, up to `--`.
-/

namespace WasmBundle.Shell

abbrev Tool := Runner → String → List String → Running Nat

structure OptionTable where
  /-- Letters of options without a value. -/
  flags : List Char := []
  /-- Letters of options with one. -/
  valued : List Char := []
  /-- Letters of options that may have one behind them. -/
  optional : List Char := []
  /-- Long names, each with the letter it stands for. A letter beyond the characters of arguments
  belongs to an option that has a long name only. -/
  long : List (String × Char) := []
  /-- The letter of the option that digits behind a dash give the value of. -/
  counted : Option Char := none
  /-- Whether options end at the first operand. -/
  leadingOnly : Bool := false

inductive OptionFault where
  | unknown (letter : Char)
  | unrecognized (text : String)
  | missingValue (letter : Char)
  | missingLongValue (name : String)
  | unwantedValue (name : String)
  | ambiguous (text : String) (candidates : List String)
  deriving DecidableEq, Repr

def OptionFault.message : OptionFault → String
  | .unknown c => "invalid option -- " ++ quoted (String.ofList [c])
  | .unrecognized text => "unrecognized option " ++ quoted text
  | .missingValue c => "option requires an argument -- " ++ quoted (String.ofList [c])
  | .missingLongValue name => "option " ++ quoted ("--" ++ name) ++ " requires an argument"
  | .unwantedValue name => "option " ++ quoted ("--" ++ name) ++ " doesn" ++
      String.ofList [apostrophe] ++ "t allow an argument"
  | .ambiguous text candidates => "option " ++ quoted text ++ " is ambiguous; possibilities:" ++
      String.join (candidates.map fun c => " " ++ quoted ("--" ++ c))

/-- The arguments of a tool, taken apart. -/
structure Invocation where
  /-- Options in order, with their values. -/
  options : List (Char × String) := []
  operands : List String := []
  deriving DecidableEq, Repr

namespace Invocation

def has (i : Invocation) (c : Char) : Bool := i.options.any (·.1 == c)

def value? (i : Invocation) (c : Char) : Option String := i.options.reverse.lookup c

def withOption (i : Invocation) (c : Char) (value : String) : Invocation :=
  { i with options := (c, value) :: i.options }

/-- Reads letters that stand together; a value is the rest of them or the next argument. -/
def readLetters (t : OptionTable) :
    List Char → List String → Except OptionFault (List (Char × String) × List String)
  | [], rest => .ok ([], rest)
  | c :: letters, rest => do
    if c.isDigit ∧ t.counted.isSome then
      let (others, left) ← readLetters t letters rest
      match others with
      | (option, value) :: more =>
        if letters.head?.any Char.isDigit then
          return ((option, String.ofList (c :: value.toList)) :: more, left)
        else return ((t.counted.getD c, String.ofList [c]) :: others, left)
      | [] => return ([(t.counted.getD c, String.ofList [c])], left)
    else if t.flags.contains c then
      let (others, left) ← readLetters t letters rest
      return ((c, "") :: others, left)
    else if t.valued.contains c then
      match letters, rest with
      | [], [] => throw (.missingValue c)
      | [], value :: left => return ([(c, value)], left)
      | _, _ => return ([(c, String.ofList letters)], rest)
    else if t.optional.contains c then return ([(c, String.ofList letters)], rest)
    else throw (.unknown c)

/-- Reads an option by its long name, which may be cut short. -/
def readLong (t : OptionTable) (text : String) (rest : List String) :
    Except OptionFault ((Char × String) × List String) := do
  let name := text.toList.takeWhile (· ≠ '=')
  let value := (text.toList.drop name.length).tail?.map String.ofList
  let found := t.long.filter fun e => name.isPrefixOf e.1.toList
  let same? := found.find? fun e => e.1.toList == name
  let meanings := (found.map (·.2)).eraseDups
  match same?.or found.head? with
  | none => throw (.unrecognized ("--" ++ text))
  | some (full, c) =>
    if same?.isNone ∧ meanings.length > 1 then
      throw (.ambiguous ("--" ++ text) (found.map (·.1)))
    else if t.valued.contains c then
      match value, rest with
      | some v, _ => return ((c, v), rest)
      | none, v :: left => return ((c, v), left)
      | none, [] => throw (.missingLongValue full)
    else if t.optional.contains c then return ((c, value.getD ""), rest)
    else
      match value with
      | some _ => throw (.unwantedValue full)
      | none => return ((c, ""), rest)

def readUpTo (t : OptionTable) : Nat → List String → Except OptionFault Invocation
  | 0, _ => .ok {}
  | limit + 1, arguments => do
    match arguments with
    | [] => return {}
    | "--" :: rest => return { operands := rest }
    | a :: rest =>
      match a.toList with
      | '-' :: '-' :: name =>
        let (o, left) ← readLong t (String.ofList name) rest
        let i ← readUpTo t limit left
        return { i with options := o :: i.options }
      | '-' :: c :: letters =>
        let (l, left) ← readLetters t (c :: letters) rest
        let i ← readUpTo t limit left
        return { i with options := l ++ i.options }
      | _ =>
        if t.leadingOnly then return { operands := a :: rest }
        else
          let i ← readUpTo t limit rest
          return { i with operands := a :: i.operands }

def read (t : OptionTable) (arguments : List String) : Except OptionFault Invocation :=
  readUpTo t (arguments.length + 1) arguments

end Invocation

namespace Tool

open Running

def tryHelp (name : String) : String :=
  "Try " ++ quoted (name ++ " --help") ++ " for more information.\n"

/-- Refuses an invocation; the status of that. -/
def misuse (name text : String) (status : Nat) : Running Nat := do
  printError (name ++ ": " ++ text ++ "\n" ++ tryHelp name)
  return status

/-- The meaning of a value that may be cut short, or what is said of it if it has none. -/
def choice? {α : Type} (option : String) (known : List (List String × α)) (value : String) :
    Except String α :=
  let fits := fun (name : String) => value.toList.isPrefixOf name.toList
  match known.find? fun k => k.1.contains value with
  | some (_, meaning) => .ok meaning
  | none =>
    match known.filter fun k => k.1.any fits with
    | [(_, meaning)] => .ok meaning
    | others =>
      let fault := if others.isEmpty then "invalid" else "ambiguous"
      let entries := known.map fun k => "\n  - " ++ ", ".intercalate (k.1.map quoted)
      .error (fault ++ " argument " ++ quotedText value ++ " for " ++ quoted option ++
        "\nValid arguments are:" ++ String.join entries)

/-- Runs a tool on its arguments, taken apart. -/
def withOptions (t : OptionTable) (misuseStatus : Nat)
    (work : Runner → String → Invocation → Running Nat) : Tool := fun r name arguments => do
  match Invocation.read t arguments with
  | .ok i => work r name i
  | .error e => misuse name e.message misuseStatus

/-- Works on every operand; the greatest status. -/
def forEach {α : Type} (work : α → Running Nat) : List α → Running Nat
  | [] => return 0
  | a :: rest => do
    let status ← work a
    return max status (← forEach work rest)

def locationOf (path : String) : Running (Except IoError Location) :=
  onDisk (OnDisk.ask [.reading (pathOf path)] fun d => d.locate (pathOf path))

def isEndless : Stream → Bool
  | .zeros => true
  | .full => true
  | _ => false

/-- What a file holds, or so many of its zeros if it has no end; `-` is the input. -/
def contentUpTo (most : Nat) (operand : String) : Running (Except IoError Bytes) := do
  let zeros := List.replicate most 0
  match if operand = "-" then some 0 else Channels.deviceDescriptor? operand with
  | some descriptor =>
    match streamOf? (← get) descriptor with
    | some (_, .file n ..) =>
      if operand = "-" then readAll descriptor else return .ok (← held n)
    | some (_, s) => if isEndless s then return .ok zeros else readAll descriptor
    | none => return .error (if operand = "-" then .badDescriptor else .noEntry)
  | none =>
    match ← Channels.openFile .read operand with
    | .error e => return .error e
    | .ok (.file n _ _) => return .ok (← held n)
    | .ok .directory => return .error .isDirectory
    | .ok s => return .ok (if isEndless s then zeros else [])

def contentOf (operand : String) : Running (Except IoError Bytes) := contentUpTo 0 operand

def inputs (operands : List String) : List String := if operands.isEmpty then ["-"] else operands

/-- What all inputs hold; a message for each that cannot be read. -/
def contents (name : String) (operands : List String) : Running (List Bytes × Nat) := do
  let mut all := []
  let mut status := 0
  for o in inputs operands do
    match ← contentOf o with
    | .ok b => all := all ++ [b]
    | .error e => status := max status (← complain name (shownPath o ++ ": " ++ e.reason))
  return (all, status)

/-- Writes a file, or to the descriptor that a name of a device stands for. -/
def writeTo (path : String) (b : Bytes) : Running (Except IoError Unit) := do
  match Channels.deviceDescriptor? path with
  | some descriptor =>
    match streamOf? (← get) descriptor with
    | some (_, .file n ..) =>
      store n b
      return .ok ()
    | _ => write descriptor b
  | none => writeFile (pathOf path) b

def filter (change : Bytes → Bytes) (name : String) (operands : List String) : Running Nat := do
  let (all, status) ← contents name operands
  printBytes (change all.flatten)
  return status

end Tool

end WasmBundle.Shell
