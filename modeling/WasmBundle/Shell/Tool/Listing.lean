import WasmBundle.Shell.Pattern
import WasmBundle.Shell.Tool.Listing.Layout
import WasmBundle.Shell.Tool.Sorting.Order

/-!
# Showing files and directories

The tool that lists files and what directories hold.
-/

namespace WasmBundle.Shell.Listing

open Running Tool

/-- What a name ends with behind its last dot, and that dot. -/
def endingOf (name : String) : List Char :=
  let cs := name.toList
  if cs.contains '.' then '.' :: (cs.reverse.takeWhile (· ≠ '.')).reverse else []

def Style.compare (s : Style) (a b : Listed) : Ordering :=
  let byName := compareOfLessAndEq a.name b.name
  let result :=
    match s.order with
    | .size => (Ord.compare b.fact.size a.fact.size).then byName
    | .time => (Ord.compare b.fact.time a.fact.time).then byName
    | .ending => (compareOfLessAndEq (endingOf a.name) (endingOf b.name)).then byName
    | .version => (Sorting.compareVersions a.name.toList b.name.toList).then byName
    | .width =>
      (Ord.compare (widthOf (s.nameText a.name)) (widthOf (s.nameText b.name))).then byName
    | _ => byName
  let result := if s.isReversed then result.swap else result
  if s.directoriesFirst then
    let rank := fun (x : Listed) => if x.isDirectory then 0 else 1
    (Ord.compare (rank a) (rank b)).then result
  else result

def Style.inOrder (s : Style) (l : List Listed) : List Listed :=
  if s.order = .none then l else l.mergeSort fun a b => s.compare a b != .gt

def showListed (s : Style) (l : List Listed) : Running Unit := do
  print (s.laidOut (s.texts (← disk).clock l))

/-- Whether a name is left out of a list. -/
def Style.isHidden (s : Style) (name : String) : Bool :=
  let fits := fun (p : String) => (Pattern.ofText p).fits name.toList
  (s.dotted = .none && name.toList.head? == some '.') || s.leftOut.any fits ||
    (s.dotted = .none && s.hidden.any fits) ||
    (s.withoutBackups && name.toList.getLast? == some '~')

/-- What is to be listed at a path, under a name. -/
def listedAt? (s : Style) (follows : Bool) (name path : String) :
    Running (Except IoError Listed) := do
  match ← factAt follows path with
  | .error e => return .error e
  | .ok f =>
    let needsMore := s.form = .long ∧ s.marks ≠ .none ∧ f.kindLetter = 'l'
    let behind ← if needsMore then factAt true path else pure (.error .noEntry)
    let leadsOn ← isDirectory path
    return .ok
      { name, path, fact := f, isDirectory := leadsOn, behind := behind.toOption }

/-- Shows what a directory holds, and below it where that is wanted, to a depth. -/
def showDirectory (name : String) (s : Style) (titled : Bool) : Nat → Bool → String → Running Nat
  | 0, _, _ => return 1
  | depth + 1, first, path => do
    if titled then
      print ((if first then "" else "\n") ++ shownName s.quoting path ++ ":\n")
    let names ← namesWithin path
    let all := (if s.dotted = .all then [".", ".."] else []) ++ names
    let visible := all.filter fun n => !s.isHidden n
    let found ← visible.filterMapM fun n => do
      let place := inDirectory path n
      match ← listedAt? s s.follows n place with
      | .ok x => return some x
      | .error _ => return (← listedAt? s false n place).toOption
    let listed := s.inOrder found
    if s.form = .long ∨ s.showsBlocks then
      let total := (listed.map fun x => x.fact.blocks).foldl (· + ·) 0
      print ("total " ++ s.blocks.show (total * 1024) ++ s.closing)
    showListed s listed
    if s.isRecursive then
      let below := listed.filter fun x =>
        x.fact.kindLetter = 'd' ∧ x.name ≠ "." ∧ x.name ≠ ".."
      forEach (showDirectory name s true depth false) (below.map (·.path))
    else return 0

def showAll (name : String) (s : Style) (operands : List String) : Running Nat := do
  let follows := fun (path : String) => do
    if s.follows ∨ s.followsOperands then return true
    else if s.onlyNames ∨ s.marks = .all ∨ s.form = .long then return false
    else isDirectory path
  let told ← operands.mapM fun o => do
    match ← listedAt? s (← follows o) o o with
    | .ok x => return (some x, 0)
    | .error e =>
      printError (name ++ ": cannot access " ++ quotedPath o ++ ": " ++ e.reason ++ "\n")
      return (none, 2)
  let status := (told.map (·.2)).foldl max 0
  let known := s.inOrder (told.filterMap (·.1))
  let isListed := fun (x : Listed) => x.fact.kindLetter = 'd' ∧ !s.onlyNames
  let files := known.filter fun x => !isListed x
  let dirs := known.filter isListed
  showListed s files
  let titled := operands.length > 1 || s.isRecursive
  let rec go (first : Bool) : List Listed → Running Nat
    | [] => return 0
    | x :: rest => do
      let status ← showDirectory name s titled depthLimit first x.path
      return max status (← go false rest)
  return max status (← go files.isEmpty dirs)

/-- The tool that starts with a style. -/
def listWith (start : Style) : Tool :=
  withOptions Style.options 2 fun _ name i => do
    match start.ofOptions i.options with
    | .error e =>
      if e.hints then misuse name e.text e.status
      else
        let _ ← complain name e.text
        return e.status
    | .ok s => showAll name s (if i.operands.isEmpty then ["."] else i.operands)

def list : Tool := listWith {}

def listInColumns : Tool := listWith { form := .columns, quoting := .escaped }

def listInFull : Tool := listWith { form := .long, quoting := .escaped }

end WasmBundle.Shell.Listing
