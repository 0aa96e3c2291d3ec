import WasmBundle.FileSource

/-!
# Trees of entries

What a disk holds is a tree: a directory with trees below it under their names, or something that
has nothing below it. A location is the list of the names on the way from the root.
-/

namespace WasmBundle

/-- The names on the way from the root. Names are bytes, whether or not they are a text. -/
abbrev Location := List Bytes

/-- The absolute path to a location, by names alone. -/
def Location.path (l : Location) : Path := ⟨Path.separator :: joinWithSeparator Path.separator l⟩

structure Attributes where
  /-- The permissions, three bits each for the owner, the group and all others. -/
  mode : Nat
  /-- When what is there was last changed, in nanoseconds. -/
  time : Int := 0
  deriving DecidableEq, Repr

inductive Entry where
  | directory (attributes : Attributes)
  /-- A name of the file of a number. -/
  | file (number : Nat)
  | link (target : Path)
  deriving DecidableEq, Repr

/-- The mode of directories, unless something is masked out. -/
def directoryMode : Nat := 0o755

/-- An entry with all that is below it, which only a directory has. -/
inductive Tree where
  | directory (attributes : Attributes) (children : List (Bytes × Tree))
  | file (number : Nat)
  | link (target : Path)

namespace Tree

def entry : Tree → Entry
  | .directory a _ => .directory a
  | .file n => .file n
  | .link target => .link target

/-- What is directly below, under its names. -/
def children : Tree → List (Bytes × Tree)
  | .directory _ l => l
  | _ => []

/-- An entry with nothing below it. -/
def leaf : Entry → Tree
  | .directory a => .directory a []
  | .file n => .file n
  | .link target => .link target

/-- A directory with nothing in it. -/
def emptyDirectory : Tree := .directory { mode := directoryMode } []

def child? (t : Tree) (name : Bytes) : Option Tree := t.children.lookup name

/-- What is at a location. -/
def at? (t : Tree) : Location → Option Tree
  | [] => some t
  | name :: rest => (t.child? name).bind fun u => u.at? rest

/-- Puts something under a name in a directory, or nothing. -/
def withChild (t : Tree) (name : Bytes) (u : Option Tree) : Tree :=
  match t with
  | .directory a l =>
    .directory a ((u.map fun u => (name, u)).toList ++ l.filter (·.1 != name))
  | _ => t

/-- Puts something at a location. Directories on the way there are made if they are missing. -/
def put (new : Tree) : Location → Tree → Tree
  | [], _ => new
  | name :: rest, t =>
    t.withChild name (some (put new rest ((t.child? name).getD emptyDirectory)))

/-- Makes directories on the way to a location, and there, where nothing is. -/
def addDirectories (a : Attributes) : Location → Tree → Tree
  | [], t => t
  | name :: rest, t =>
    t.withChild name (some (addDirectories a rest ((t.child? name).getD (.directory a []))))

/-- Takes away what is at a location, with all below it. -/
def cut : Location → Tree → Tree
  | [], t => t
  | [name], t => t.withChild name none
  | name :: rest, t =>
    match t.child? name with
    | none => t
    | some u => t.withChild name (some (cut rest u))

mutual

/-- All entries, each with its location; the tree's own entry is the first. -/
def list : Tree → List (Location × Entry)
  | .directory a children => ([], .directory a) :: listAll children
  | .file n => [([], .file n)]
  | .link target => [([], .link target)]

def listAll : List (Bytes × Tree) → List (Location × Entry)
  | [] => []
  | (name, t) :: rest => t.list.map (fun e => (name :: e.1, e.2)) ++ listAll rest

end

@[simp] theorem entry_leaf (e : Entry) : (leaf e).entry = e := by cases e <;> rfl

@[simp] theorem children_leaf (e : Entry) : (leaf e).children = [] := by cases e <;> rfl

@[simp] theorem entry_withChild (t : Tree) (name : Bytes) (u : Option Tree) :
    (t.withChild name u).entry = t.entry := by cases t <;> rfl

/-- What is below something is below a directory. -/
theorem directory_of_child? {t u : Tree} {name : Bytes} (h : t.child? name = some u) :
    ∃ a, t.entry = .directory a := by
  cases t with
  | directory a _ => exact ⟨a, rfl⟩
  | file _ => cases h
  | link _ => cases h

theorem at?_append (t : Tree) (l m : Location) :
    t.at? (l ++ m) = (t.at? l).bind fun u => u.at? m := by
  induction l generalizing t with
  | nil => rfl
  | cons name rest ih =>
    simp only [List.cons_append, at?]
    cases t.child? name with
    | none => rfl
    | some u => exact ih u

/-- What is at a location has only directories above it. -/
theorem directory_above {t u : Tree} {l rest : Location} {name : Bytes}
    (h : t.at? (l ++ name :: rest) = some u) :
    ∃ v a, t.at? l = some v ∧ v.entry = .directory a := by
  rw [at?_append] at h
  obtain ⟨v, hv, hrest⟩ := Option.bind_eq_some_iff.1 h
  obtain ⟨c, hc, -⟩ := Option.bind_eq_some_iff.1 hrest
  obtain ⟨a, ha⟩ := directory_of_child? hc
  exact ⟨v, a, hv, ha⟩

end Tree

end WasmBundle
