import WasmBundle.Shell.Tool.Operand

/-!
# Backups

Tools that replace files can keep what was there under another name: with a suffix, or with a
number that is greater than those of all backups that are there.
-/

namespace WasmBundle.Shell.Backup

open Running Tool

inductive Control where
  | off
  | simple
  /-- Numbers, if there is a backup with one already. -/
  | existing
  | numbered
  deriving DecidableEq, Repr

def controls : List (List String × Control) :=
  [(["none", "off"], .off), (["simple", "never"], .simple), (["existing", "nil"], .existing),
    (["numbered", "t"], .numbered)]

def controlLetter : Char := 'β'

/-- The control that options and the environment choose, or what is wrong with the choice. -/
def control (p : Process) (i : Invocation) : Except String Control :=
  if !(i.has 'b' || i.has 'S' || i.has controlLetter) then .ok .off
  else
    match (i.value? controlLetter).getD "", (value? p "VERSION_CONTROL").getD "" with
    | "", "" => .ok .existing
    | "", text => choice? "$VERSION_CONTROL" controls text
    | text, _ => choice? "backup type" controls text

def suffix (p : Process) (i : Invocation) : String :=
  let text := (i.value? 'S').getD ((value? p "SIMPLE_BACKUP_SUFFIX").getD "")
  if text.isEmpty ∨ text.toList.contains '/' then "~" else text

def number? (name backup : String) : Option Nat :=
  let start := name.toList ++ ['.', '~']
  let cs := backup.toList
  if start.isPrefixOf cs ∧ cs.getLast? = some '~' then
    Numeral.count? (String.ofList (cs.drop start.length).dropLast)
  else none

/-- What is put behind a name for its next backup among names that are there. -/
def ending (c : Control) (simple name : String) (names : List String) : Option String :=
  let numbers := names.filterMap (number? name)
  let next := ".~" ++ toString (numbers.foldl max 0 + 1) ++ "~"
  match c with
  | .off => none
  | .simple => some simple
  | .existing => some (if numbers.isEmpty then simple else next)
  | .numbered => some next

/-- The path of the next backup of what is at a path, if there is to be one. -/
def nextPath? (i : Invocation) (path : String) : Running (Option String) := do
  let p ← get
  match control p i with
  | .error _ => return none
  | .ok c =>
    let name := baseName path
    if name = "." ∨ name = ".." then return none
    let names ← namesWithin (directoryOf path)
    return (ending c (suffix p i) name names).map (withoutMarks path ++ ·)

/-- Moves what a path names to its next backup, if there is to be one; the path of that. -/
def keep (i : Invocation) (path : String) : Running (Option String) := do
  match ← nextPath? i path, ← placeOf (withoutMarks path) with
  | some kept, .ok l =>
    setDisk ((← disk).moveTree l (l.dropLast ++ [octets (baseName kept)]))
    return some kept
  | _, _ => return none

def told (kept : Option String) : String :=
  match kept with
  | some path => " (backup: " ++ quotedPath path ++ ")"
  | none => ""

end WasmBundle.Shell.Backup
