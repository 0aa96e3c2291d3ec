import WasmBundle.Shell.Tool.Actions.Evaluation
import WasmBundle.Shell.Tool.Actions.Grammar

/-!
# Working through records

The tool that runs a program of actions on the records of its inputs.
-/

namespace WasmBundle.Shell.Actions

open Running

structure Order where
  /-- The files that hold the program. -/
  files : List String := []
  /-- What separates fields. -/
  separator : Option String := none
  /-- The names that are set before the program starts. -/
  settings : List (String × String) := []
  /-- What is told of options that mean nothing. -/
  told : List String := []
  /-- Whether only the options are told of. -/
  asksUsage : Bool := false
  operands : List String := []

namespace Order

/-- The options of more than one letter that change nothing here. -/
def idleOptions : List String :=
  ["interactive", "posix_space", "compat", "traditional", "random", "sprintf", "repetitions"]

/-- The option whose value is followed by the file of the program. -/
def isExec (text : String) : Bool := !text.isEmpty && text.toList.isPrefixOf "exec".toList

def withLong (o : Order) (text : String) : Order :=
  let name := text.toList.takeWhile (· ≠ '=')
  let means := fun (k : String) => !name.isEmpty && name.isPrefixOf k.toList
  if idleOptions.any means then o
  else if means "help" || means "usage" then { o with asksUsage := true }
  else { o with told := o.told ++ ["vacuous option: -W \"" ++ text ++ "\""] }

def withOption (o : Order) (letter : Char) (value : String) : Except String Order :=
  match letter with
  | 'f' => .ok { o with files := o.files ++ [value] }
  | 'F' => .ok { o with separator := some value }
  | _ =>
    match Machine.assignment? value with
    | some s => .ok { o with settings := o.settings ++ [s] }
    | none => .error ("improper assignment: -v " ++ value)

/-- An order that ends with the file of its program; none if an option does not say so. -/
def program? (o : Order) (option : String) (rest : List String) : Option Order :=
  match isExec option, rest with
  | true, file :: operands => some { o with files := o.files ++ [file], operands }
  | _, _ => none

/-- An order with the option of a letter, whose value is behind it or the next argument; what is
left of the arguments. -/
def withShort? (o : Order) (letter : Char) (behind : List Char) (rest : List String) :
    Except String (Order × List String) :=
  let option := String.ofList ('-' :: letter :: behind)
  let isKnown := letter = 'f' ∨ letter = 'F' ∨ letter = 'v'
  if !isKnown then .error ("not an option: " ++ option)
  else if behind.isEmpty then
    match rest with
    | [] => .error ("option " ++ option ++ " lacks argument")
    | value :: others => (o.withOption letter value).map fun o => (o, others)
  else (o.withOption letter (String.ofList behind)).map fun o => (o, rest)

def read : Nat → Order → List String → Except (List String) Order
  | 0, o, _ => .ok o
  | limit + 1, o, arguments =>
    let refuse := fun (text : String) => Except.error (o.told ++ [text])
    match arguments with
    | [] => .ok o
    | "--" :: rest => .ok { o with operands := rest }
    | a :: rest =>
      match a.toList with
      | ['-'] => .ok { o with operands := a :: rest }
      | ['-', 'W'] =>
        match rest with
        | [] => refuse ("option " ++ a ++ " lacks argument")
        | name :: others =>
          match o.program? name others with
          | some o => .ok o
          | none => read limit (o.withLong name) others
      | '-' :: c :: name =>
        if c = '-' ∨ c = 'W' then
          match o.program? (String.ofList name) rest with
          | some o => .ok o
          | none => read limit (o.withLong (String.ofList name)) rest
        else
          match o.withShort? c name rest with
          | .ok (o, others) => read limit o others
          | .error text => refuse text
      | _ => .ok { o with operands := a :: rest }

def separatorFault? (o : Order) : Option String := do
  let s := String.ofList (unescaped (← o.separator).toList)
  match Separator.ofText s with
  | .ok _ => none
  | .error e => some ("line 0: regular expression compile failed (" ++ e.message ++ ")\n" ++ s)

end Order

/-- The text of the program, and the arguments it is given. -/
def programText (o : Order) : Running (Except String (String × List String)) := do
  match o.files, o.operands with
  | [], [] => return .ok ("", [])
  | [], text :: rest => return .ok (text, rest)
  | files, rest =>
    let mut text := ""
    for f in files do
      match ← Tool.contentOf f with
      | .ok b => text := text ++ ofOctets b ++ "\n"
      | .error e => return .error ("cannot open \"" ++ f ++ "\" (" ++ e.reason ++ ")")
    return .ok (text, rest)

def usage : List String :=
  ["Usage: mawk [Options] [Program] [file ...]",
    "",
    "Program:",
    "    The -f option value is the name of a file containing program text.",
    "    If no -f option is given, a \"--\" ends option processing; the following",
    "    parameters are the program text.",
    "",
    "Options:",
    "    -f program-file  Program  text is read from file instead of from the",
    "                     command-line.  Multiple -f options are accepted.",
    "    -F value         sets the field separator, FS, to value.",
    "    -v var=value     assigns value to program variable var.",
    "    --               unambiguous end of options.",
    "",
    "    Implementation-specific options are prefixed with \"-W\".  They can be",
    "    abbreviated:",
    "",
    "    -W version       show version information and exit.",
    "    -W compat        pre-POSIX 2001.",
    "    -W dump          show assembler-like listing of program and exit.",
    "    -W help          show this message and exit.",
    "    -W interactive   set unbuffered output, line-buffered input.",
    "    -W exec file     use file as program as well as last option.",
    "    -W posix         stricter POSIX checking.",
    "    -W random=number set initial random seed.",
    "    -W sprintf=number adjust size of sprintf buffer.",
    "    -W usage         show this message and exit."]

def firstValues : List (String × Value) :=
  [("FS", .text " "), ("OFS", .text " "), ("RS", .text "\n"), ("ORS", .text "\n"),
    ("SUBSEP", .text (String.ofList [Char.ofNat 28])), ("CONVFMT", .text "%.6g"),
    ("OFMT", .text "%.6g"), ("NR", .number 0), ("FNR", .number 0), ("FILENAME", .text ""),
    ("RSTART", .number 0), ("RLENGTH", .number (-1))]

def prepare (name : String) (arguments : List String) (o : Order) : Work Unit := do
  let given ← Machine.tableOf (.shared "ARGV")
  for (i, a) in (List.range (arguments.length + 1)).zip (name :: arguments) do
    Machine.setElement given (.whole i) (.input a)
  Machine.setValue "ARGC" (.ofNat (arguments.length + 1))
  let around ← Machine.tableOf (.shared "ENVIRON")
  for (n, v) in environment (← perform get) do
    Machine.setElement around (.text n) (.input v)
  if let some s := o.separator then
    Machine.save (.shared "FS") (.text (String.ofList (unescaped s.toList)))
  for (n, v) in o.settings do
    Machine.save (.shared n) (.input v)

/-- Runs a program on arguments; the status. -/
def runProgram (r : Runner) (name : String) (p : Program) (arguments : List String) (o : Order) :
    Running Nat := do
  let values := firstValues.foldl (fun (m : Std.HashMap String Value) v => m.insert v.1 v.2) {}
  let work : Work Unit := do
    prepare name arguments o
    Evaluation.run r
  let (result, m) ← work.run.run { program := p, values }
  let told ←
    match result with
    | .error (.fault text) => do
      printError (name ++ ": " ++ text ++ "\n")
      pure true
    | _ => pure false
  let _ ← ((Machine.closeAll r).run).run m
  return if told then 2 else m.status

def workThrough : Tool := fun r path arguments => do
  let name := ((splitAtSeparator '/' path.toList).getLast?.map String.ofList).getD path
  let refuse := fun (l : List String) => do
    for text in l do
      let _ ← complain name text
    return 2
  match Order.read (arguments.length + 1) {} arguments with
  | .error l => refuse l
  | .ok o =>
    for text in o.told do
      let _ ← complain name text
    if o.asksUsage then
      print ("\n".intercalate usage ++ "\n")
      return 0
    else if o.files.isEmpty ∧ o.operands.isEmpty then
      printError ("\n".intercalate usage ++ "\n")
      return 0
    else
      match o.separatorFault? with
      | some text => refuse [text]
      | none =>
        match ← programText o with
        | .error text => refuse [text]
        | .ok (text, operands) =>
          match Grammar.read text with
          | .error l => refuse l
          | .ok p => runProgram r name p operands o

end WasmBundle.Shell.Actions
