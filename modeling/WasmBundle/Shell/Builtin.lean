import WasmBundle.Shell.Builtin.Place
import WasmBundle.Shell.Condition
import WasmBundle.Shell.Format

/-!
# The commands of the shell itself

The table of the commands that need no program, and how one of them is run. A fault ends the shell
if the command is special and else gives its status.
-/

namespace WasmBundle.Shell.Builtin

open Running

def printText (arguments : List String) : Running Nat := do
  print (Format.echoed arguments)
  return 0

def printFormatted (arguments : List String) : Running Nat := do
  match (← options [] arguments).2 with
  | [] => fail "usage: printf format [arg ...]"
  | format :: rest =>
    let result := Format.run format rest
    for text in result.warnings.reverse.map (·.message) ++ result.fault.toList do warn text
    print result.text
    if result.fault.isSome then throw (.fault 2)
    return if result.failed then 1 else 0

/-- A condition in brackets, of which the last one closes it. -/
def bracketed (arguments : List String) : Running Nat := do
  if arguments.getLast? = some "]" then Condition.status arguments.dropLast else fail "missing ]"

def showTimes : Running Nat := do
  print "0m0.000000s 0m0.000000s\n0m0.000000s 0m0.000000s\n"
  return 0

/-- Shows a limit of the shell's processes or sets one, which changes nothing. -/
def limit (arguments : List String) : Running Nat := do
  let letters := ['H', 'S', 't', 'f', 'd', 's', 'c', 'm', 'l', 'p', 'n', 'v', 'w', 'r']
  let (chosen, operands) ← options ('a' :: letters) arguments
  if operands.isEmpty ∧ !chosen.contains 'a' then
    let shown :=
      match chosen.filter fun l => l != 'H' && l != 'S' with
      | ['s'] => "8192"
      | ['n'] => "1048576"
      | ['w'] => ""
      | ['r'] => "0"
      | _ => "unlimited"
    print (shown ++ "\n")
  return 0

def noJobControl : Running Nat := fail "No current job"

/-- A command of the shell: what it does with a runner, with whether its failure is looked at, and
with its arguments. -/
abbrev Action := Runner → Bool → List String → Running Nat

def plainly (work : List String → Running Nat) : Action := fun _ _ arguments => work arguments

def actions : List (String × Action) :=
  [(".", fun r _ arguments => source r arguments),
    (":", plainly fun _ => return 0),
    ("[", plainly bracketed),
    ("alias", plainly nameReplacements),
    ("bg", plainly fun _ => noJobControl),
    ("break", plainly breakLoops),
    ("cd", plainly changeDirectory),
    ("chdir", plainly changeDirectory),
    ("continue", plainly continueLoop),
    ("echo", plainly printText),
    ("eval", fun r tested arguments => evaluateText r tested arguments),
    ("exec", fun r _ arguments => execute r arguments),
    ("exit", plainly exit),
    ("export", plainly exportVariables),
    ("false", plainly fun _ => return 1),
    ("fg", plainly fun _ => noJobControl),
    ("getopts", plainly readOption),
    ("jobs", plainly listTasks),
    ("kill", plainly kill),
    ("local", plainly localVariables),
    ("printf", plainly printFormatted),
    ("pwd", plainly printPlace),
    ("read", plainly read),
    ("readonly", plainly protectVariables),
    ("return", plainly leave),
    ("set", plainly set),
    ("shift", plainly shift),
    ("test", plainly Condition.status),
    ("times", plainly fun _ => showTimes),
    ("trap", plainly trap),
    ("true", plainly fun _ => return 0),
    ("ulimit", plainly limit),
    ("umask", plainly mask),
    ("unalias", plainly unalias),
    ("unset", plainly unset),
    ("wait", plainly wait)]

def describing : List String := ["command", "hash", "type"]

def names : List String := actions.map (·.1) ++ describing

/-- What the command of a name does, if the shell has it. -/
def action? (name : String) : Option Action :=
  match name with
  | "command" => some (plainly (describe names))
  | "hash" => some (plainly (track names))
  | "type" => some (plainly (describeAll names none))
  | _ => actions.lookup name

/-- Commands whose arguments of the form of assignments are expanded like those. -/
def declares (name : String) : Bool := ["export", "readonly", "local"].contains name

def isSpecial (name : String) : Bool := name = "local" || Reading.specialNames.contains name

/-- Runs a command of the shell. What it could not print is a failure of its own. -/
def perform (action : Running Nat) (name : String) (special : Bool) : Running Nat := do
  let before := (← get).builtin
  modify fun p => { p with builtin := some name, printFault := none }
  let work := do
    let status ← action
    if (← get).printFault.isSome then
      warn (name ++ ": I/O error")
      return status ||| 1
    else return status
  try
    tryCatch work fun
      | .fault status => if special then throw (.fault status) else return status
      | e => throw e
  finally
    modify fun p => { p with builtin := before, printFault := none }

end WasmBundle.Shell.Builtin
