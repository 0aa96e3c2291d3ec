import WasmBundle.Text

/-!
# Paths

A path keeps its bytes as written, whether or not they are a text. What it denotes is its sequence
of components: repeated and trailing separators and every `.` but a leading one are no components,
and `..` is never resolved. Two paths are equivalent, written `p ≈ q`, when they have the same
components; `Path.key` orders them accordingly.
-/

namespace WasmBundle

structure Path where
  bytes : Bytes
  deriving DecidableEq, Repr

inductive Component where
  | root
  | current
  | parent
  | normal (name : Bytes)
  deriving DecidableEq, Repr

/-- Orders components: the root, `.`, `..`, then names by their bytes. -/
def Component.key : Component → Bytes
  | .root => [0]
  | .current => [1]
  | .parent => [2]
  | .normal name => 3 :: name

/-- The parts of a list between separators, the separators themselves removed. -/
def splitAtSeparator {α : Type} [DecidableEq α] (sep : α) : List α → List (List α)
  | [] => [[]]
  | c :: r =>
    if c = sep then [] :: splitAtSeparator sep r
    else
      match splitAtSeparator sep r with
      | [] => [[c]]
      | s :: t => (c :: s) :: t

/-- Puts the separator between the parts. -/
def joinWithSeparator {α : Type} (sep : α) : List (List α) → List α
  | [] => []
  | [s] => s
  | s :: t => s ++ sep :: joinWithSeparator sep t

namespace Path

/-- The path that a text spells. -/
def ofText (s : String) : Path := ⟨Bytes.utf8 s⟩

instance : Coe String Path := ⟨ofText⟩

/-- The path as it is shown. -/
def text (p : Path) : String := p.bytes.shown

/-- The byte `/`. -/
def separator : UInt8 := 0x2f

/-- The byte `.`. -/
def dot : UInt8 := 0x2e

/-- The part `..`. -/
def up : Bytes := [dot, dot]

def isEmpty (p : Path) : Bool := p.bytes.isEmpty

def isAbsolute (p : Path) : Bool := p.bytes.head? = some separator

/-- The first part of the path, which may be a leading `.` or stand before the root, and the
parts after it. -/
def segments (p : Path) : Bytes × List Bytes :=
  match splitAtSeparator separator p.bytes with
  | [] => ([], [])
  | s :: t => (s, t)

/-- Parts after the first that are no components. -/
def ignorable (s : Bytes) : Bool := s = [] ∨ s = [dot]

def componentOf (s : Bytes) : Component :=
  if s = [dot] then .current else if s = up then .parent else .normal s

def components (p : Path) : List Component :=
  let (head, tail) := p.segments
  let first :=
    if head = [] then if tail = [] then [] else [.root]
    else [componentOf head]
  first ++ (tail.filter fun s => !ignorable s).map componentOf

instance : HasEquiv Path := ⟨fun p q => p.components = q.components⟩

instance (p q : Path) : Decidable (p ≈ q) :=
  inferInstanceAs (Decidable (p.components = q.components))

/-- The order of paths by components. -/
def key (p : Path) : List Bytes := p.components.map Component.key

/-- An absolute right side replaces the left one; otherwise a separator is put between them, unless
the left one is empty or ends in one. -/
def join (p q : Path) : Path :=
  if q.isAbsolute then q
  else if p.isEmpty ∨ p.bytes.getLast? = some separator then ⟨p.bytes ++ q.bytes⟩
  else ⟨p.bytes ++ separator :: q.bytes⟩

/-- The parts up to the last one that is a component. -/
def trimmed : List Bytes → List Bytes
  | [] => []
  | s :: t =>
    match trimmed t with
    | [] => if ignorable s then [] else [s]
    | front => s :: front

/-- The path without its last component; none when there is nothing but the root. -/
def parent? (p : Path) : Option Path :=
  let (head, tail) := p.segments
  match trimmed tail with
  | [] => if head = [] then none else some ⟨[]⟩
  | s :: t =>
    match trimmed (s :: t).dropLast with
    | [] => some ⟨if head = [] then [separator] else head⟩
    | front => some ⟨joinWithSeparator separator (head :: front)⟩

/-- The last component, if it is a name. -/
def fileName? (p : Path) : Option Bytes :=
  match p.components.getLast? with
  | some (.normal name) => some name
  | _ => none

/-- The file name as it is shown. -/
def fileText? (p : Path) : Option String := p.fileName?.map Bytes.shown

/-- Splits a file name at its last dot, unless that is its first byte. -/
def splitExtension? (name : Bytes) : Option (Bytes × Bytes) :=
  let ext := (name.reverse.takeWhile (· ≠ dot)).reverse
  if ext.length + 1 < name.length then
    some (name.take (name.length - ext.length - 1), ext)
  else none

/-- What stands after the last dot of the file name. -/
def extension? (p : Path) : Option Bytes := do
  let name ← p.fileName?
  let (_, ext) ← splitExtension? name
  return ext

/-- The path with everything after the stem of its file name cut off. -/
def upToStem (p : Path) : Path :=
  match p.fileName? with
  | none => p
  | some name =>
    let stem := ((splitExtension? name).map (·.1)).getD name
    let (head, tail) := p.segments
    match trimmed tail with
    | [] => ⟨stem⟩
    | s :: t => ⟨joinWithSeparator separator (head :: (s :: t).dropLast ++ [stem])⟩

/-- The path without the extension of its file name: as many bytes are cut off as the extension
has, then everything after the stem of what is left. Where `..` is left, which is no file name,
nothing more is cut off. -/
def withoutExtension (p : Path) : Path :=
  match p.extension? with
  | none => p
  | some ext => upToStem ⟨p.bytes.take (p.bytes.length - ext.length)⟩

/-- The path with a text put directly behind it. -/
def append (p : Path) (suffix : String) : Path := ⟨p.bytes ++ Bytes.utf8 suffix⟩

end Path

end WasmBundle
