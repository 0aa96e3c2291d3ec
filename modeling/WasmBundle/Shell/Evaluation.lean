import WasmBundle.Shell.Builtin

/-!
# Evaluation

What commands do. A command gives a status, which is kept; where the options say so, a failure that
is not looked at ends the shell. Commands within a command and programs are run by a runner.
-/

namespace WasmBundle.Shell.Evaluation

open Running

/-- What the fields of a command call. -/
structure Call where
  /-- The fields from the name on. -/
  fields : List String
  /-- Whether another command says how the name is found, so that it is no function's. -/
  indirect : Bool := false
  /-- Whether programs are looked for in the usual directories. -/
  usualPath : Bool := false

/-- What follows the options of the command that says how a name is found; nothing if it does
something else. -/
def namedBy : List String → Option (Bool × List String)
  | [] => none
  | a :: rest =>
    match a.toList with
    | ['-', '-'] => if rest.isEmpty then none else some (false, rest)
    | '-' :: c :: letters =>
      if (c :: letters).all (· = 'p') then (namedBy rest).map fun n => (true, n.2) else none
    | _ => some (false, a :: rest)

def callUpTo (functions : List Function) : Nat → Call → Call
  | 0, c => c
  | limit + 1, c =>
    match c.fields with
    | "command" :: rest =>
      if !c.indirect ∧ functions.any (·.name == "command") then c
      else
        match namedBy rest with
        | some (usual, fields) =>
          callUpTo functions limit
            { fields := fields, indirect := true, usualPath := usual || c.usualPath }
        | none => c
    | _ => c

def callOf (functions : List Function) (fields : List String) : Call :=
  callUpTo functions fields.length { fields := fields }

inductive Target where
  | nothing
  | function (body : Command)
  | builtin (name : String) (action : Builtin.Action)
  | program

def targetOf (functions : List Function) (c : Call) : Target :=
  match c.fields with
  | [] => .nothing
  | name :: _ =>
    match if c.indirect then none else functions.find? (·.name == name) with
    | some f => .function f.body
    | none =>
      match Builtin.action? name with
      | some action => .builtin name action
      | none => .program

/-- Whether the arguments of a call may be assignments. -/
def declares (functions : List Function) (fields : List String) : Bool :=
  let c := callOf functions fields
  match targetOf functions c with
  | .builtin name _ => Builtin.declares name
  | _ => false

/-- The fields of words, after those there are. -/
def expandWords (capture : Command → Running String) :
    List String → List Word → Running (List String)
  | done, [] => return done
  | done, w :: rest => do
    let functions := (← get).functions
    let fields ←
      match if declares functions done then assignment? w else none with
      | some (name, value) => do
        pure [name ++ "=" ++ (← Expansion.assignedText capture value)]
      | none => Expansion.fields capture w
    expandWords capture (done ++ fields) rest

/-- Gives variables their values; the assignments as they are shown. With `exported` set they are
for programs as well. -/
def assignAll (capture : Command → Running String) (exported : Bool) :
    List Word → Running (List String)
  | [] => return []
  | w :: rest => do
    match assignment? w with
    | none => assignAll capture exported rest
    | some (name, value) =>
      let text ← Expansion.assignedText capture value
      assign name text
      if exported then change name fun v => { v with exported := true }
      return (name ++ "=" ++ text) :: (← assignAll capture exported rest)

/-- Runs work and then gives variables the values back that they had. -/
def withVariables {α : Type} (names : List String) (work : Running α) : Running α := do
  let p ← get
  let before := names.map fun n => (n, variableNamed? p n)
  try work finally before.forM fun v => restore v.1 v.2

def trace (stream : Option Nat) (fields : List String) : Running Unit := do
  let p ← get
  match stream with
  | none => return ()
  | some i =>
    if hasOption p 'x' then
      let before := p.descriptors
      connect 2 i
      printError ((value? p "PS4").getD "" ++ " ".intercalate fields ++ "\n")
      modify fun p => { p with descriptors := before }

/-- How many calls of functions can be in progress. -/
def callLimit : Nat := 1000

def callFunction (r : Runner) (tested : Bool) (body : Command) (arguments : List String) :
    Running Nat := do
  let before ← get
  if callLimit ≤ before.locals.length then
    fail ("Maximum function recursion depth (" ++ toString callLimit ++ ") reached")
  modify fun p =>
    { p with
      arguments := arguments, loops := 0, locals := [] :: p.locals
      optionIndex := 1, optionPlace := 0 }
  try
    tryCatch (r.evaluate tested body) fun
      | .leave status => return status
      | e => throw e
  finally
    for v in ((← get).locals.head?).getD [] do restore v.1 v.2
    modify fun p =>
      { p with
        arguments := before.arguments, loops := before.loops, locals := before.locals
        optionIndex := before.optionIndex, optionPlace := before.optionPlace }

/-- The status of a program that has ended, with a message if a signal ended it. -/
def waited (work : Running (Except IoError Nat)) : Running (Except IoError Nat) :=
  tryCatch work fun
    | .killed signal => do
      match Signal.report? signal with
      | some text => printError (text ++ "\n")
      | none => pure ()
      return .ok (128 + signal)
    | e => throw e

def callProgram (r : Runner) (usual : Bool) (fields : List String) : Running Nat := do
  let name := fields.headD ""
  let refuse := fun (e : IoError) (status : Nat) => do
    warn (name ++ ": " ++ (Builtin.executionFault e).1)
    return status
  let found ←
    if usual && !Program.hasSlash name then Program.findAlong Builtin.usualPath name
    else Builtin.findTracked name
  match found with
  | .error e => refuse e 127
  | .ok place =>
    match ← waited (r.start place fields) with
    | .ok status => return status
    | .error e => refuse e (Builtin.executionFault e).2

def runTarget (r : Runner) (tested : Bool) (c : Call) : Target → Running Nat
  | .nothing => do return (← get).substituted
  | .function body => callFunction r tested body (c.fields.drop 1)
  | .builtin name action =>
    Builtin.perform (action r tested (c.fields.drop 1)) name
      (!c.indirect && Builtin.isSpecial name)
  | .program => callProgram r c.usualPath c.fields

/-- The assignments of a command, carried out and shown, and then what it calls. Only special
commands of the shell and those without a name leave the variables changed. -/
def runCall (r : Runner) (tested : Bool) (assignments : List Word) (shown : List String)
    (c : Call) (errors : Option Nat) : Running Nat := do
  let capture := Subshell.capture r
  let target := targetOf (← get).functions c
  let keeps :=
    match target with
    | .nothing => true
    | .builtin name _ => !c.indirect && Builtin.isSpecial name
    | _ => false
  let replaces := (c.fields.head? = some "exec" : Bool) && c.fields.length > 1
  let work := do
    let texts ← assignAll capture (!keeps || replaces) assignments
    trace errors (texts ++ shown)
    runTarget r tested c target
  if keeps then work
  else withVariables (assignments.filterMap fun w => (assignment? w).map (·.1)) work

/-- Runs a simple command: expands its words and redirections, carries out the redirections and
the assignments, and then runs what the first word names. -/
def simple (r : Runner) (tested : Bool) (line : Nat) (assignments words : List Word)
    (redirections : List Redirection) : Running Nat := do
  modify fun p => { p with line := line, substituted := 0 }
  let capture := Subshell.capture r
  let fields ← expandWords capture [] words
  let c := callOf (← get).functions fields
  let openings ← redirections.mapM (Channels.expand capture)
  let errors := (← get).descriptors.lookup 2
  let special := !c.indirect && (c.fields.head?.any Builtin.isSpecial)
  if c.fields.head? = some "exec" then
    match ← Channels.faultIn (openings.forM (Channels.establish true)) with
    | none => runCall r tested assignments fields c errors
    | some status => if special then throw (.fault status) else return status
  else Channels.during openings special (runCall r tested assignments fields c errors)

inductive Turn where
  | next (status : Nat)
  | finished (status : Nat)

def turn (work : Running Turn) : Running Turn := do
  tryCatch work fun
    | .leaveLoops 1 => return .finished 0
    | .leaveLoops n => throw (.leaveLoops (n - 1))
    | .nextTurn 1 => return .next 0
    | .nextTurn n => throw (.nextTurn (n - 1))
    | e => throw e

def inLoop (work : Running Nat) : Running Nat := do
  modify fun p => { p with loops := p.loops + 1 }
  try work finally modify fun p => { p with loops := p.loops - 1 }

def turnLimit : Nat := 100000000

def loopTurns (r : Runner) (tested untilHolds : Bool) (test body : Command) :
    Nat → Nat → Running Nat
  | 0, status => return status
  | limit + 1, status => do
    let ended ← turn do
      let holds := (← r.evaluate true test) = 0
      if holds = untilHolds then return .finished status
      else return .next (← r.evaluate tested body)
    match ended with
    | .finished status => return status
    | .next status => loopTurns r tested untilHolds test body limit status

def iterate (r : Runner) (tested : Bool) (name : String) (body : Command) :
    List String → Nat → Running Nat
  | [], status => return status
  | item :: rest, _ => do
    let ended ← turn do
      assign name item
      return .next (← r.evaluate tested body)
    match ended with
    | .finished status => return status
    | .next status => iterate r tested name body rest status

def fitsAny (capture : Command → Running String) (text : String) : List Word → Running Bool
  | [] => return false
  | w :: rest => do
    if (← Expansion.pattern capture w).fits text.toList then return true
    else fitsAny capture text rest

def select (r : Runner) (tested : Bool) (text : String) : List Branch → Running Nat
  | [] => return 0
  | .mk patterns body :: rest => do
    if ← fitsAny (Subshell.capture r) text patterns then
      match body with
      | .nothing => return 0
      | _ => r.evaluate tested body
    else select r tested text rest

/-- Runs commands that each read what the one before wrote. -/
def stages (r : Runner) (tested : Bool) : List Command → Running Nat
  | [] => return 0
  | [last] => Subshell.inCopy r (r.evaluate tested last)
  | stage :: rest => do
    let stream ← addStream (.sink [])
    let _ ← Subshell.inCopy r do
      connect 1 stream
      r.evaluate tested stage
    setStream stream (.source (← Subshell.collected stream))
    let before := (← get).descriptors
    connect 0 stream
    let status ← stages r tested rest
    modify fun p => { p with descriptors := before }
    return status

def freePlace (tasks : List Task) : Nat :=
  let places := (List.range (tasks.length + 1)).map (· + 1)
  (places.find? fun n => tasks.all (·.place != n)).getD 0

/-- The tasks with a new one, whose place may be that of one that was waited for. -/
def withTask (tasks : List Task) (number status : Nat) (finish : Int) : List Task :=
  let place := freePlace (tasks.filter fun t => !t.isAwaited)
  { place, number, status, finish } :: tasks.filter (·.place != place)

def beside (r : Runner) (body : Command) : Running Nat := do
  let before := (← disk).clock
  let status ← Subshell.inCopy r do
    connect 0 (← addStream .null)
    r.evaluate false body
  let d ← disk
  setDisk { d with clock := before }
  modify fun p =>
    let number := p.lastTask + 1
    { p with lastTask := number, tasks := withTask p.tasks number status d.clock }
  return 0

def runPending (r : Runner) : Nat → Running Unit
  | 0 => return ()
  | limit + 1 => do
    let p ← get
    match p.pending with
    | [] => return ()
    | name :: rest =>
      modify fun p => { p with pending := rest }
      let _ ← Subshell.runScript (r.evaluate false) ((p.traps.lookup name).getD "")
      modify fun q => { q with status := p.status }
      runPending r limit

def isChecked : Command → Bool
  | .simple .. => true
  | .pipeline .. => true
  | .background .. => true
  | .subshell .. => true
  | _ => false

/-- What a command does; the status it sets, if it sets one. -/
def work (r : Runner) (tested : Bool) : Command → Running (Option Nat)
  | .nothing => return none
  | .simple line assignments words redirections =>
    some <$> simple r tested line assignments words redirections
  | .pipeline commands => some <$> stages r tested commands
  | .background body => some <$> beside r body
  | .negation body => do
    return some (if (← r.evaluate true body) = 0 then 1 else 0)
  | .conjunction first second => do
    if (← r.evaluate true first) = 0 then some <$> r.evaluate tested second else return none
  | .disjunction first second => do
    if (← r.evaluate true first) = 0 then return none else some <$> r.evaluate tested second
  | .sequence first second => do
    let _ ← r.evaluate tested first
    some <$> r.evaluate tested second
  | .redirected line body redirections => do
    modify fun p => { p with line := line }
    let openings ← redirections.mapM (Channels.expand (Subshell.capture r))
    some <$> Channels.during openings false (r.evaluate tested body)
  | .subshell line body redirections => do
    modify fun p => { p with line := line }
    let openings ← redirections.mapM (Channels.expand (Subshell.capture r))
    some <$> Subshell.inCopy r do
      openings.forM (Channels.establish false)
      r.evaluate tested body
  | .conditional test body otherwise => do
    let chosen := if (← r.evaluate true test) = 0 then body else otherwise
    match chosen with
    | .nothing => return some 0
    | _ => some <$> r.evaluate tested chosen
  | .loop untilHolds test body =>
    some <$> inLoop (loopTurns r tested untilHolds test body turnLimit 0)
  | .iteration line name items body => do
    modify fun p => { p with line := line }
    let fields ← items.mapM (Expansion.fields (Subshell.capture r))
    some <$> inLoop (iterate r tested name body fields.flatten 0)
  | .selection line subject branches => do
    modify fun p => { p with line := line }
    let text ← Expansion.text (Subshell.capture r) subject
    some <$> select r tested text branches
  | .definition name body => do
    modify fun p =>
      { p with functions := ⟨name, body⟩ :: p.functions.filter (·.name != name) }
    return some 0

/-- Runs a command; its status. -/
def command (r : Runner) (tested : Bool) (c : Command) : Running Nat := do
  if hasOption (← get) 'n' then return 0
  runPending r 64
  match ← work r tested c with
  | none => pure ()
  | some status => modify fun p => { p with status := status }
  runPending r 64
  let p ← get
  if isChecked c ∧ !tested ∧ p.status ≠ 0 ∧ hasOption p 'e' then throw (.exit p.status)
  return p.status

end WasmBundle.Shell.Evaluation
