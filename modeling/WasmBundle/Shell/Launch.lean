import WasmBundle.Compilation
import WasmBundle.Shell.Evaluation
import WasmBundle.Shell.Tool

/-!
# Launching programs

A program is a tool of the system, or a file that names the tool that interprets it. `launcher` runs
one to its end with nothing to read, and collects what it prints.
-/

namespace WasmBundle.Shell

open Running

inductive Job where
  | evaluate (tested : Bool) (command : Command)
  | start (place : String) (arguments : List String)

def Runner.ofJobs (done : Job → Running (Except IoError Nat)) : Runner where
  evaluate tested command := do
    match ← done (.evaluate tested command) with
    | .ok status => return status
    | .error _ => return 2
  start place arguments := done (.start place arguments)

namespace Program

/-- Runs a tool in a process of its own. Only what programs are given comes with it. -/
def run (r : Runner) (s : Start) : Running (Except IoError Nat) := do
  match Tool.all.lookup s.tool with
  | none => return .error .notExecutable
  | some tool =>
    let name := s.arguments.headD ""
    Subshell.apart do
      modify fun p =>
        { name := name
          bindings := p.bindings.filter fun v => v.exported && v.value.isSome
          descriptors := p.descriptors
          streams := p.streams
          mask := p.mask }
      let status ← tool r name (s.arguments.drop 1)
      match (← get).printFault with
      | none => return .ok status
      | some e => return .ok (max status (← complain name ("write error: " ++ e.reason)))

/-- Starts a program as a shell does: a file that names no interpreter is a script of the shell. -/
def call (r : Runner) (place : String) (arguments : List String) :
    Running (Except IoError Nat) := do
  match ← starting place arguments with
  | .ok s => run r s
  | .error .notExecutable =>
    let shell := Interpreter.usualPlace
    match ← starting shell (shell :: place :: arguments.drop 1) with
    | .ok s => run r s
    | .error e => return .error e
  | .error e => return .error e

end Program

def perform : Nat → Job → Running (Except IoError Nat)
  | 0, _ => throw (.fault 2)
  | depth + 1, .evaluate tested command =>
    .ok <$> Evaluation.command (Runner.ofJobs (perform depth)) tested command
  | depth + 1, .start place arguments =>
    Program.call (Runner.ofJobs (perform depth)) place arguments

def depthLimit : Nat := 1000000

/-- A process that has nothing to read and whose output is collected. -/
def freshProcess (environment : List (String × String)) : Process where
  name := ""
  bindings := environment.map fun v =>
    { name := inward v.1, value := some (inward v.2), exported := true }
  descriptors := [(0, 0), (1, 1), (2, 2)]
  streams := [.null, .sink [], .sink []]

def finished (result : Except Interruption Nat) (p : Process) : Finished :=
  let collected := fun (n : Nat) =>
    match p.streams[n]? with
    | some (.sink parts) => parts.reverse.flatten
    | _ => []
  { success := result matches .ok 0, output := collected 1, errors := collected 2 }

/-- Runs programs with the variables of an environment. What is started here must name its
interpreter. -/
def launcher (environment : List (String × String)) : Launcher := fun program arguments => do
  let words := (program.bytes :: arguments).map ofOctets
  if words.any fun w => w.toList.contains (Char.ofNat 0) then return .error .nulInCommand
  else if program.isEmpty then return .error .noEntry
  else
    let work : Running (Except IoError Nat) := do
      match ← Program.find (words.headD "") with
      | .error e => return .error e
      | .ok place =>
        match ← Program.starting place words with
        | .ok s => Program.run (Runner.ofJobs (perform depthLimit)) s
        | .error e => return .error e
    match ← work.run.run (freshProcess environment) with
    | (.ok (.ok status), p) => return .ok (finished (.ok status) p)
    | (.ok (.error e), _) => return .error e
    | (.error e, p) => return .ok (finished (.error e) p)

end WasmBundle.Shell
