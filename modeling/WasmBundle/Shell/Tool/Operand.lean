import WasmBundle.Shell.Tool.Invocation

/-!
# Operands that name files

What tools on files ask of the paths they are given: what is there, with or without following a
link, where something new would be, and what stands in a directory.
-/

namespace WasmBundle.Shell.Tool

open Running

def found (path : String) : Running (Except IoError Node) := onDisk (OnDisk.find (pathOf path))

/-- The entry that a path names, which may be a link, with its location. -/
def entryOf (path : String) : Running (Except IoError (Location × Entry)) :=
  onDisk (OnDisk.findEntry (pathOf path))

/-- Where a path leads, for a file that need not be there yet. -/
def targetOf (path : String) : Running (Except IoError Location) :=
  onDisk (OnDisk.ask [.reading (pathOf path)] fun d => d.target (pathOf path))

def placeOf (path : String) : Running (Except IoError Location) :=
  onDisk (OnDisk.ask [.reading (pathOf path)] fun d => d.place (pathOf path))

/-- The entry that a path leads to, with its location. -/
def entryBehind (path : String) : Running (Except IoError (Location × Entry)) := do
  match ← locationOf path with
  | .error e => return .error e
  | .ok l =>
    match (← disk).lookup? l with
    | some e => return .ok (l, e)
    | none => return .error .noEntry

def isDirectory (path : String) : Running Bool := do
  return (← found path) matches .ok .directory

/-- Whether a slash follows the name of a path. -/
def hasMark (path : String) : Bool := path.toList.getLast? = some '/'

/-- A path without slashes behind it, unless it is the root. -/
def withoutMarks (path : String) : String :=
  let cs := (path.toList.reverse.dropWhile (· = '/')).reverse
  if cs.isEmpty ∧ !path.isEmpty then "/" else String.ofList cs

def isMarkedLink (path : String) : Running Bool := do
  return hasMark path && ((← entryOf (withoutMarks path)) matches .ok (_, .link _))

/-- The last part of a path, without slashes behind it. -/
def baseName (path : String) : String :=
  let text := withoutMarks path
  if text = "/" then text else String.ofList ((splitAtSeparator '/' text.toList).getLast?.getD [])

def inDirectory (dir name : String) : String :=
  if hasMark dir then dir ++ name else dir ++ "/" ++ name

def directoryOf (path : String) : String :=
  let trim := fun (cs : List Char) => (cs.reverse.dropWhile (· = '/')).reverse
  let cs := trim path.toList
  let dir := (cs.reverse.dropWhile (· ≠ '/')).reverse
  if cs.isEmpty then if path.isEmpty then "." else "/"
  else if dir.isEmpty then "."
  else
    let dir := trim dir
    if dir.isEmpty then "/" else String.ofList dir

def namesWithin (path : String) : Running (List String) := do
  onDisk (OnDisk.consult [.listing (pathOf path)])
  match ← locationOf path with
  | .ok l => return ((← disk).namesIn l).map ofOctets
  | .error _ => return []

def pathText (l : Location) : String := ofOctets (Location.path l).bytes

/-- The attributes of what an entry names, which a link has none of. -/
def attributesOf? (e : Entry) : Running (Option Attributes) := do
  match e with
  | .directory a => return some a
  | .file n => return ((← disk).files[n]?).map (·.attributes)
  | .link _ => return none

def modeOf (e : Entry) : Running Nat := do return ((← attributesOf? e).map (·.mode)).getD 0o777

def depthLimit : Nat := 1000

def agrees (question : String) : Running Bool := do
  printError question
  match ← readLine 0 with
  | .ok (line, _) => return line.head?.any fun c => c = 121 ∨ c = 89
  | .error _ => return false

/-- The way from a directory to a location, by names alone. -/
def relativePath : Location → Location → Location
  | a :: as, b :: bs =>
    if a = b then relativePath as bs else (a :: as).map (fun _ => Path.up) ++ b :: bs
  | here, there => here.map (fun _ => Path.up) ++ there

def relativeText (start target : Location) : String :=
  match relativePath start target with
  | [] => "."
  | parts => ofOctets (joinWithSeparator Path.separator parts)

/-- The letters of options that stand for others. -/
def renamed (names : List (Char × Char)) (i : Invocation) : Invocation :=
  { i with options := i.options.map fun o => ((names.lookup o.1).getD o.1, o.2) }

def widened (meanings : List (Char × List Char)) (i : Invocation) : Invocation :=
  { i with
    options := i.options ++ i.options.flatMap fun o =>
      ((meanings.lookup o.1).getD []).map fun c => (c, "") }

end WasmBundle.Shell.Tool
