import WasmBundle.Shell.Tool.Finding.Reading
import WasmBundle.Shell.Tool.Words

/-!
# Finding files

The tool that goes through directories and all below them, and prints the files for which an
expression holds, or does something with them.
-/

namespace WasmBundle.Shell.Finding

open Running Tool

structure Progress where
  status : Nat := 0
  /-- Whether the search is over. -/
  isOver : Bool := false
  /-- Whether the directory in work is left alone. -/
  isPruned : Bool := false
  /-- The files for commands that take several, under their numbers, the last one first. -/
  gathered : List (Nat × String × String) := []
  /-- What is printed to files, the last text first. -/
  printed : List (String × String) := []

abbrev Searching := StateT Progress Running

def perform {α : Type} (work : Running α) : Searching α := StateT.lift work

/-- Complains; the search goes on. -/
def complainOf (text : String) : Searching Unit := do
  let _ ← perform (complain "find" text)
  modify fun p => { p with status := 1 }

def put (sink : Sink) (text : String) : Searching Unit := do
  match sink with
  | .output => perform (print text)
  | .file name => modify fun p => { p with printed := (name, text) :: p.printed }

/-- A word of a command with the file in place of its signs. -/
def filledIn (file w : String) : String := file.intercalate (w.splitOn "\x7b\x7d")

def runIn (r : Runner) (dir : Option String) (words : List String) : Running Nat := do
  let here := (← disk).workingDirectory
  if let some path := dir then
    if let .ok l := ← locationOf path then setDisk { (← disk) with workingDirectory := l }
  let status ← startAs r "find" quotedText words
  setDisk { (← disk) with workingDirectory := here }
  return status

def nameInPlace (s : Subject) : String :=
  if s.path = "/" then "/" else "./" ++ baseName s.path

/-- Removes a file, if it is not the directory where the search begins. -/
def delete (s : Subject) : Searching Bool := do
  if s.path = "." then return true
  let refuse := fun (e : IoError) => do
    complainOf ("cannot delete " ++ quotedPath s.path ++ ": " ++ e.reason)
    return false
  let within ← perform (namesWithin s.path)
  if s.fact.kindLetter = 'd' ∧ !within.isEmpty then refuse .notEmpty
  else
    perform do setDisk ((← disk).unlink s.fact.location)
    return true

/-- Does something with a file; whether that counts as true. -/
def act (r : Runner) (s : Subject) : Action → Searching Bool
  | .print sink ending => do
    put sink (s.path ++ String.ofList [ending])
    return true
  | .format sink pieces => do
    put sink (s.shown pieces)
    return true
  | .run words inPlace asks => do
    let file := if inPlace then nameInPlace s else s.path
    let call := words.map (filledIn file)
    let isWanted ←
      if asks then
        perform (agrees ("< " ++ call.headD "" ++ " ... " ++ s.path ++ " > ? "))
      else pure true
    if !isWanted then return false
    else
      let status ← perform (runIn r (if inPlace then some s.directory else none) call)
      return status == 0
  | .gather n _ inPlace => do
    let file := if inPlace then nameInPlace s else s.path
    modify fun p => { p with gathered := (n, s.directory, file) :: p.gathered }
    return true
  | .delete => delete s
  | .prune => do
    modify fun p => { p with isPruned := true }
    return true
  | .quit => do
    modify fun p => { p with isOver := true }
    return true

/-- Whether an expression holds for a file, with all that is done on the way. -/
def evaluate (r : Runner) (now : Int) (s : Subject) : Expression → Searching Bool
  | .test t => return t.holds now s
  | .action a => act r s a
  | .not a => do return !(← evaluate r now s a)
  | .and a b => do
    let holds ← evaluate r now s a
    if holds && !(← get).isOver then evaluate r now s b else return holds
  | .or a b => do
    let holds ← evaluate r now s a
    if holds || (← get).isOver then return holds else evaluate r now s b
  | .both a b => do
    let holds ← evaluate r now s a
    if (← get).isOver then return holds else evaluate r now s b

/-- What is known of the file at a path. A link that leads nowhere is taken for itself. -/
def subjectAt (follows : Bool) (start path : String) (depth : Nat) :
    Running (Except IoError Subject) := do
  match ← factAt false path with
  | .error e => return .error e
  | .ok f =>
    let behind ← if f.kindLetter = 'l' then factAt true path else pure (.error .noEntry)
    let fact := if follows then behind.toOption.getD f else f
    let within ← if fact.kindLetter = 'd' then namesWithin path else pure []
    return .ok { path, start, depth, fact, behind := behind.toOption, within }

/-- Goes through a file and all below it, to a depth. -/
def visit (r : Runner) (x : Settings) (e : Expression) (now : Int) (start : String) :
    Nat → Nat → String → Searching Unit
  | 0, _, _ => return ()
  | limit + 1, depth, path => do
    if (← get).isOver then return ()
    let follows := x.follow == .all || (x.follow == .operands && depth == 0)
    match ← perform (subjectAt follows start path depth) with
    | .error fault => complainOf (quotedPath path ++ ": " ++ fault.reason)
    | .ok s =>
      let look : Searching Unit := do
        if x.least ≤ depth then
          let _ ← evaluate r now s e
      let descend : Searching Unit := do
        if s.fact.kindLetter = 'd' ∧ (x.most.all fun n => depth < n) then
          let names ← perform (namesWithin path)
          for name in names do visit r x e now start limit (depth + 1) (inDirectory path name)
      modify fun p => { p with isPruned := false }
      if x.insideOut then
        descend
        if !(← get).isOver then look
      else
        look
        let p ← get
        if !p.isPruned && !p.isOver then descend

/-- Runs the commands that take several files; one that fails makes the search fail. -/
def finish (r : Runner) : List (Nat × List String × Bool) → Searching Unit
  | [] => return ()
  | (n, words, inPlace) :: rest => do
    let files := ((← get).gathered.filter (·.1 == n)).reverse.map (·.2)
    let dirs := if inPlace then (files.map (·.1)).eraseDups else ["."]
    for dir in dirs do
      let chosen := if inPlace then files.filter (·.1 == dir) else files
      if !chosen.isEmpty then
        let place := if inPlace then some dir else none
        let status ← perform (runIn r place (words ++ chosen.map (·.2)))
        if status ≠ 0 then modify fun p => { p with status := 1 }
    finish r rest

def leadingOptions : Settings → List String → Settings × List String
  | x, "-H" :: rest => leadingOptions { x with follow := .operands } rest
  | x, "-L" :: rest => leadingOptions { x with follow := .all } rest
  | x, "-P" :: rest => leadingOptions { x with follow := .none } rest
  | x, "--" :: rest => (x, rest)
  | x, w :: rest =>
    if "-O".toList.isPrefixOf w.toList ∧ w.length > 2 then leadingOptions x rest else (x, w :: rest)
  | x, [] => (x, [])

def Expression.files : Expression → List String
  | .action (.print (.file f) _) => [f]
  | .action (.format (.file f) _) => [f]
  | .action _ => []
  | .test _ => []
  | .not a => a.files
  | .and a b => a.files ++ b.files
  | .or a b => a.files ++ b.files
  | .both a b => a.files ++ b.files

def search (r : Runner) (x : Settings) (e : Expression) (starts : List String) :
    Running Nat := do
  let now := (← disk).clock
  for f in e.files do
    let _ ← writeTo f []
  let work : Searching Unit := do
    for start in starts do visit r x e now start depthLimit 0 start
    finish r e.gathered
  let ((), p) ← work.run {}
  for f in e.files.eraseDups do
    let texts := (p.printed.reverse.filter (·.1 == f)).map (·.2)
    let _ ← writeTo f (octets (String.join texts))
  return p.status

def find : Tool := fun r name arguments => do
  let (x, words) := leadingOptions {} arguments
  let starts := words.takeWhile fun w => !beginsExpression true w
  let rest : Rest := { words := words.drop starts.length, settings := x }
  match ← ((tokens (words.length + 1)).run rest).run with
  | .error lines =>
    for text in lines do printError (name ++ ": " ++ text ++ "\n")
    return 1
  | .ok (l, s) =>
    for text in s.warnings do printError (name ++ ": " ++ text ++ "\n")
    match whole l with
    | .error text => complain name text
    | .ok e => search r s.settings e (if starts.isEmpty then ["."] else starts)

end WasmBundle.Shell.Finding
