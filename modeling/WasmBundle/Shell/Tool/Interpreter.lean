import WasmBundle.Shell.Builtin
import WasmBundle.Shell.Tool.Invocation

/-!
# The shell as a program

The shell, told its options, its script and the arguments of that. What is started begins with the
variables that programs are given, and with some of its own.
-/

namespace WasmBundle.Shell.Interpreter

open Running

def usualPlace : String := "/bin/sh"

/-- The directories in which a shell that is told none looks for programs. -/
def usualPath : String := "/usr/local/sbin:/usr/local/bin:/usr/sbin:/usr/bin:/sbin:/bin"

/-- The variables that a shell sets when it starts, whatever it is told. -/
def ownVariables : List (String × String) := [("IFS", " \t\n"), ("OPTIND", "1")]

def usualVariables : List (String × String) :=
  [("PATH", usualPath), ("PS1", "$ "), ("PS2", "> "), ("PS4", "+ ")]

/-- The place where a shell takes itself to be: the one it was told, if that leads where it is. -/
def startPlace : Running String := do
  let here ← Builtin.workingPlace
  match value? (← get) "PWD" with
  | none => return here
  | some told =>
    let d := (← onDisk get).disk
    let leadsHere : Bool :=
      match d.locate (pathOf told) with
      | .ok l => l == d.workingDirectory
      | .error _ => false
    return if told.toList.head? = some '/' ∧ leadsHere then told else here

/-- Sets the variables of a shell that starts. Only those whose names are names come in. -/
def setVariables : Running Unit := do
  modify fun p => { p with bindings := p.bindings.filter fun v => isName v.name.toList }
  let place ← startPlace
  for (name, value) in ownVariables do
    change name fun v => { v with value := some value }
  for (name, value) in usualVariables do
    if (value? (← get) name).isNone then change name fun v => { v with value := some value }
  change "PWD" fun v => { v with value := some place, exported := true }

structure Order where
  /-- Whether the first argument is the text of a script. -/
  givesText : Bool := false
  arguments : List String

/-- Sets the letters of an argument; the rest of the arguments, and whether a script is given. -/
def setLetters (on : Bool) : List Char → Order → Running Order
  | [], o => return o
  | 'c' :: letters, o => setLetters on letters { o with givesText := true }
  | 'l' :: letters, o => setLetters on letters o
  | 'o' :: letters, o => do
    setLetters on letters { o with arguments := ← Builtin.setLetters on ['o'] o.arguments }
  | c :: letters, o => do
    setLetters on letters { o with arguments := ← Builtin.setLetters on [c] o.arguments }

def setOptions : Nat → Order → Running Order
  | 0, o => return o
  | limit + 1, o => do
    match o.arguments with
    | [] => return o
    | a :: rest =>
      match a.toList with
      | ['-'] => return { o with arguments := rest }
      | ['-', '-'] => return { o with arguments := rest }
      | '-' :: letters =>
        setOptions limit (← setLetters true letters { o with arguments := rest })
      | '+' :: letters =>
        setOptions limit (← setLetters false letters { o with arguments := rest })
      | _ => return o

def scriptIn (place : String) : Running String := do
  match ← Channels.openFile .read place with
  | .ok (.file n _ _) => return ofOctets (← held n)
  | .ok _ => return ""
  | .error e => Channels.cannotOpen .read place e

def scriptFor (o : Order) : Running String := do
  let readsInput := hasOption (← get) 's'
  match o.arguments with
  | [] =>
    if o.givesText then fail "-c requires an argument"
    else
      modify fun p => { p with arguments := [] }
      Builtin.setOption true 's'
      readsAll
  | a :: rest =>
    if o.givesText then
      modify fun p => { p with name := rest.headD p.name, arguments := rest.drop 1 }
      return a
    else if readsInput then
      modify fun p => { p with arguments := a :: rest }
      readsAll
    else
      let text ← scriptIn a
      modify fun p => { p with name := a, arguments := rest }
      return text
where
  readsAll : Running String := do
    match ← readAll 0 with
    | .ok b => return ofOctets b
    | .error _ => return ""

def shell : Tool := fun r name arguments => do
  modify fun p => { p with name := name }
  setVariables
  let work := do
    let o ← setOptions (arguments.length + 1) { arguments := arguments }
    let text ← scriptFor o
    let p ← get
    if hasOption p 'm' || hasOption p 'i' then Builtin.refuseControl
    Subshell.runScript (r.evaluate false) text
  match ← Subshell.ended (r.evaluate false) work with
  | .ok status => return status
  | .error signal => throw (.killed signal)

end WasmBundle.Shell.Interpreter
