import WasmBundle.Shell.Channels
import WasmBundle.Shell.Grammar

/-!
# Scripts and shells within shells

Running the text of a script, one complete command after another, and running work in a copy of the
shell. What a copy changes is lost with it, apart from what it wrote and read.
-/

namespace WasmBundle.Shell

structure Runner where
  /-- Runs a command in this shell; it may be one whose failure is looked at. -/
  evaluate : Bool → Command → Running Nat
  /-- Runs the program at a place with arguments, in a process of its own. -/
  start : String → List String → Running (Except IoError Nat)

namespace Subshell

open Running

def linesBetween (before after : Cursor) : String :=
  String.ofList (before.rest.take (before.rest.length - after.rest.length))

/-- Runs what is left of a script; the status of the last command. -/
def runFrom (evaluate : Command → Running Nat) : Nat → Cursor → Nat → Running Nat
  | 0, _, status => return status
  | limit + 1, cursor, status => do
    let cursor := { cursor with aliases := (← get).aliases }
    match Reading.completeCommand.run cursor with
    | .error e =>
      modify fun p => { p with line := e.line, lineRead := e.line }
      fail e.message
    | .ok (none, _) => return status
    | .ok (some n, next) =>
      modify fun p => { p with lineRead := next.line }
      if hasOption (← get) 'v' then printError (linesBetween cursor next)
      match n with
      | .nothing => runFrom evaluate limit next status
      | _ => runFrom evaluate limit next (← evaluate n)

def runScript (evaluate : Command → Running Nat) (text : String) : Running Nat :=
  runFrom evaluate (text.length + Reading.aliasRoom + 1) { rest := text.toList } 0

def runSourced (evaluate : Command → Running Nat) (text : String) : Running Nat :=
  tryCatch (runScript evaluate text) fun
    | .leave status => return status
    | e => throw e

/-- Runs the action for the end of the shell; the status it ends with. -/
def finish (evaluate : Command → Running Nat) (status : Nat) : Running Nat := do
  match (← get).traps.lookup "EXIT" with
  | none => return status
  | some action =>
    modify fun p =>
      { p with traps := p.traps.filter (·.1 != "EXIT"), status := status, builtin := none }
    tryCatch (do
        let _ ← runScript evaluate action
        return status)
      fun
      | .exit s => return s
      | .fault s => return s
      | .killed s => throw (.killed s)
      | _ => return status

def endingStatus : Interruption → Except Nat Nat
  | .exit status => .ok status
  | .fault status => .ok status
  | .leave status => .ok status
  | .killed signal => .error signal
  | _ => .ok 0

/-- Runs work up to the end of a shell; its status, or the signal that killed it. -/
def ended (evaluate : Command → Running Nat) (work : Running Nat) : Running (Except Nat Nat) := do
  let result ← tryCatch (do return Except.ok (← work)) fun e => return endingStatus e
  match result with
  | .error signal => return .error signal
  | .ok status =>
    tryCatch (do return Except.ok ((← finish evaluate status) % 256))
      fun e => return endingStatus e

def renewed (tasks known : List Task) : List Task :=
  tasks.map fun t => (known.find? (·.number = t.number)).getD t

/-- Runs work and then puts the shell back as it was, but for what it wrote and read and for the
tasks it ended. -/
def apart {α : Type} (work : Running α) : Running α := do
  let before ← get
  let place := (← onDisk get).disk.workingDirectory
  try work
  finally
    modify fun p =>
      { before with streams := p.streams, tasks := renewed before.tasks p.tasks }
    onDisk (modify fun s => { s with disk := { s.disk with workingDirectory := place } })

/-- Runs work in a copy of the shell; its status. -/
def inCopy (r : Runner) (work : Running Nat) : Running Nat := do
  let result ← apart do
    modify fun p => { p with traps := p.traps.filter (·.2.isEmpty), pending := [], loops := 0 }
    ended (r.evaluate false) work
  match result with
  | .ok status => return status
  | .error signal => throw (.killed signal)

def collected (stream : Nat) : Running Bytes := do
  match (← get).streams[stream]? with
  | some (.sink parts) => return parts.reverse.flatten
  | _ => return []

/-- The output of work, without the line ends that close it. -/
def outputOf (work : Running Nat) : Running (String × Nat) := do
  let stream ← addStream (.sink [])
  let before := (← get).descriptors
  connect 1 stream
  let status ← work
  modify fun p => { p with descriptors := before }
  let text := (ofOctets (← collected stream)).toList.filter (· ≠ Char.ofNat 0)
  return (String.ofList (text.reverse.dropWhile (· = '\n')).reverse, status)

def capture (r : Runner) (n : Command) : Running String := do
  let (text, status) ← outputOf (inCopy r (r.evaluate false n))
  modify fun p => { p with substituted := status }
  return text

end Subshell

end WasmBundle.Shell
