import WasmBundle.Shell.Builtin.State
import WasmBundle.Shell.Program
import WasmBundle.Shell.Signal

/-!
# Commands on the course of a script

The commands that leave loops, functions and scripts, run texts and programs, and deal with
signals.
-/

namespace WasmBundle.Shell.Builtin

open Running

/-- The loops that a command on loops is about: those named by the argument, at most all. -/
def loopLevels (arguments : List String) : Running Nat := do
  let n ←
    match arguments with
    | [] => pure 1
    | a :: _ =>
      match ← number a with
      | 0 => fail ("Illegal number: " ++ a)
      | n => pure n
  return min n (← get).loops

def breakLoops (arguments : List String) : Running Nat := do
  match ← loopLevels arguments with
  | 0 => return 0
  | n => throw (.leaveLoops n)

def continueLoop (arguments : List String) : Running Nat := do
  match ← loopLevels arguments with
  | 0 => return 0
  | n => throw (.nextTurn n)

/-- The status that an argument gives, or that of the last command. -/
def statusFrom (arguments : List String) : Running Nat := do
  match arguments with
  | [] => return (← get).status
  | a :: _ => number a

def exit (arguments : List String) : Running Nat := do
  throw (.exit ((← statusFrom arguments) % 256))

def leave (arguments : List String) : Running Nat := do
  throw (.leave (← statusFrom arguments))

/-- Runs the text that arguments make; its failure may be one that is looked at. -/
def evaluateText (r : Runner) (tested : Bool) (arguments : List String) : Running Nat :=
  Subshell.runScript (r.evaluate tested) (" ".intercalate arguments)

def searchPath (p : Process) : String := (value? p "PATH").getD ""

def firstFile : List String → Running (Option String)
  | [] => return none
  | place :: rest => do
    match ← onDisk (OnDisk.find (pathOf place)) with
    | .ok (.file ..) => return some place
    | _ => firstFile rest

def source (r : Runner) (arguments : List String) : Running Nat := do
  match arguments with
  | [] => return 0
  | name :: _ =>
    let path := searchPath (← get)
    let place ←
      if Program.hasSlash name then pure name
      else
        match ← firstFile (Program.candidates path name) with
        | some place => pure place
        | none => fail (name ++ ": not found")
    match ← Channels.openFile .read place with
    | .error e => Channels.cannotOpen .read place e
    | .ok s =>
      let text ←
        match s with
        | .file n _ _ => held n
        | _ => pure []
      modify fun p => { p with builtin := some place }
      Subshell.runSourced (r.evaluate false) (ofOctets text)

/-- Why a program cannot be executed, and the status that tells it. -/
def executionFault (e : IoError) : String × Nat :=
  match e with
  | .noEntry => ("not found", 127)
  | .notDirectory => ("not found", 127)
  | .nameTooLong => (e.reason, 127)
  | .tooManyLevels => (e.reason, 127)
  | e => (e.reason, 126)

def execute (r : Runner) (arguments : List String) : Running Nat := do
  match arguments with
  | [] => return 0
  | name :: _ =>
    let started ←
      match ← Program.findAlong (searchPath (← get)) name with
      | .ok place => r.start place arguments
      | .error e => pure (.error e)
    match started with
    | .ok status =>
      modify fun p => { p with traps := [] }
      throw (.exit status)
    | .error e =>
      let (text, status) := executionFault e
      warn (name ++ ": " ++ text)
      throw (.exit status)

def receive (signal : Nat) : Running Unit := do
  let name := Signal.trapName signal
  match (← get).traps.lookup name with
  | some action =>
    if !action.isEmpty then modify fun p => { p with pending := p.pending ++ [name] }
  | none => if signal = 0 ∨ Signal.isIgnored signal then return () else throw (.killed signal)

/-- The task that a text in the form of one names. -/
def taskNamed (text : String) : Running Task := do
  let tasks := (← get).tasks
  let name := text.toList.drop 1
  let found :=
    if [[], ['%'], ['+']].contains name then tasks.head?
    else if name = ['-'] then tasks[1]?
    else (Numeral.count? (String.ofList name)).bind fun n => tasks.find? (·.place = n)
  match found with
  | some t => return t
  | none =>
    if [[], ['%'], ['+']].contains name then fail "No current job"
    else if name = ['-'] then fail "No previous job"
    else fail ("No such job: " ++ text)

def namesTask (text : String) : Bool := text.toList.head? = some '%'

def setTask (t : Task) : Running Unit :=
  modify fun p => { p with tasks := Subshell.renewed p.tasks [t] }

/-- A task once a signal came to it, which ends it if it was not at its end. -/
def afterSignal (now : Int) (signal : Nat) (t : Task) : Task :=
  if signal = 0 ∨ Signal.isIgnored signal ∨ t.finish ≤ now then t
  else { t with status := 128 + signal, finish := now, signal := some signal }

/-- Sends a signal to processes. Those of tasks are no group of their own, and once some time has
passed since its end a task has none. -/
def sendAll (signal : Nat) : List String → Running Nat
  | [] => return 0
  | target :: rest => do
    if target = toString shellNumber ∨ target = "0" then
      receive signal
      sendAll signal rest
    else
      if namesTask target then let _ ← taskNamed target
      else if (Numeral.whole? false target).isNone then fail ("Illegal number: " ++ target)
      let now := (← disk).clock
      let isMeant := fun (t : Task) =>
        !t.isAwaited && toString t.number = target && decide (now ≤ t.finish)
      match (← get).tasks.find? isMeant with
      | some t =>
        setTask (afterSignal now signal t)
        sendAll signal rest
      | none =>
        warn "No such process\n"
        let _ ← sendAll signal rest
        return 1

/-- The names of all signals, or of one by its number or the status of what it ended. -/
def listSignals : List String → Running Nat
  | [] => do
    print (String.join (("0" :: Signal.names).map (· ++ "\n")))
    return 0
  | a :: _ => do
    let n ← number a
    match Signal.name? (if 128 < n then n - 128 else n) with
    | some name =>
      print (name ++ "\n")
      return 0
    | none => fail ("invalid signal number or exit status: " ++ a)

def killUsage : String :=
  "Usage: kill [-s sigspec | -signum | -sigspec] [pid | job]... or\nkill -l [exitstatus]"

def kill (arguments : List String) : Running Nat := do
  match arguments with
  | [] => fail killUsage
  | "-l" :: rest => listSignals rest
  | "--" :: rest => sendAll 15 rest
  | "-s" :: name :: rest =>
    match Signal.number? name with
    | some n => sendAll n rest
    | none => fail ("invalid signal number or name: " ++ name)
  | a :: rest =>
    match a.toList with
    | '-' :: c :: letters =>
      match Signal.number? (String.ofList (c :: letters)) with
      | some n => sendAll n rest
      | none => fail ("Illegal option -" ++ String.ofList [c])
    | _ => sendAll 15 (a :: rest)

/-- Sets the action for signals, which `none` takes away. -/
def setTraps (action : Option String) : List String → Running Nat
  | [] => return 0
  | a :: rest => do
    match Signal.number? a with
    | none => complain "trap" (a ++ ": bad trap")
    | some n =>
      let name := Signal.trapName n
      modify fun p =>
        let others := p.traps.filter (·.1 != name)
        { p with traps := others ++ (action.toList.map fun x => (name, x)) }
      setTraps action rest

def trap (arguments : List String) : Running Nat := do
  match (← options [] arguments).2 with
  | [] =>
    let p ← get
    for name in Signal.endName :: Signal.names do
      match p.traps.lookup name with
      | some action => print ("trap -- " ++ readable action ++ " " ++ name ++ "\n")
      | none => pure ()
    return 0
  | [a] => setTraps none [a]
  | a :: rest =>
    if (Signal.number? a).isSome then setTraps none (a :: rest)
    else setTraps (if a = "-" then none else some a) rest

/-- Waits for a task and tells of the signal that ended it; its status. -/
def waitForTask (t : Task) : Running Nat := do
  awaitTime t.finish
  if !t.isAwaited then
    match t.signal.bind Signal.report? with
    | some text => printError (text ++ "\n")
    | none => pure ()
  setTask { t with isAwaited := true }
  return t.status

def waitFor : List String → Running Nat
  | [] => return 0
  | a :: rest => do
    let task ←
      if namesTask a then some <$> taskNamed a
      else do
        let n ← number a
        pure ((← get).tasks.find? (·.number = n))
    let status ← (task.map waitForTask).getD (pure 127)
    if rest.isEmpty then return status else waitFor rest

def wait (arguments : List String) : Running Nat := do
  let (_, operands) ← options [] arguments
  if operands.isEmpty then
    for t in (← get).tasks do awaitTime t.finish
    modify fun p =>
      { p with tasks := p.tasks.map fun (t : Task) => { t with isAwaited := true } }
  waitFor operands

def standing (now : Int) (t : Task) : String :=
  if now < t.finish then "Running"
  else
    match t.signal with
    | some signal => (Signal.report? signal).getD ""
    | none => if t.status = 0 then "Done" else "Done(" ++ toString t.status ++ ")"

/-- A task in a list of all, the first two of which are marked. -/
def taskLine (now : Int) (tasks : List Task) (t : Task) : String :=
  let mark := if tasks.head? = some t then "+" else if tasks[1]? = some t then "-" else " "
  let text := standing now t
  "[" ++ toString t.place ++ "] " ++ mark ++ " " ++ text ++
    String.ofList (List.replicate (27 - text.length) ' ') ++ "\n"

/-- Lists tasks and forgets those that are at their end. -/
def listTasks (arguments : List String) : Running Nat := do
  let (letters, operands) ← options ['l', 'p'] arguments
  let now := (← disk).clock
  let all := (← get).tasks
  let wanted ← if operands.isEmpty then pure all else operands.mapM taskNamed
  for t in wanted do
    if letters.contains 'p' then print (toString t.number ++ "\n")
    else print (taskLine now all t)
  let isOver := fun (t : Task) => decide (t.finish ≤ now) && wanted.contains t
  modify fun p => { p with tasks := p.tasks.filter fun t => !isOver t }
  return 0

end WasmBundle.Shell.Builtin
