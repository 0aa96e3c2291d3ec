import WasmBundle.Path

/-!
# Search paths

A search path is a list of directories in order of precedence. Empty directories and directories
equivalent to one already present are not added, so the first spelling of each is kept and a search
path never has a directory twice.
-/

namespace WasmBundle

/-- Directories none of which is empty or equivalent to another one. -/
structure SearchPath where
  roots : List Path := []
  nonempty : ∀ r ∈ roots, r.isEmpty = false := by exact fun _ h => nomatch h
  distinct : roots.Pairwise fun p q => ¬p ≈ q := by exact List.Pairwise.nil
  deriving DecidableEq

namespace SearchPath

/-- Whether a directory need not be added to those that are there. -/
def Covered (roots : List Path) (dir : Path) : Prop := dir.isEmpty ∨ ∃ r ∈ roots, r ≈ dir

instance (roots : List Path) : DecidablePred (Covered roots) := fun _ =>
  inferInstanceAs (Decidable (_ ∨ _))

theorem nonempty_concat {roots : List Path} {dir : Path} (h : ¬Covered roots dir)
    (hroots : ∀ r ∈ roots, r.isEmpty = false) : ∀ r ∈ roots ++ [dir], r.isEmpty = false := by
  intro r hr
  rcases List.mem_append.1 hr with hr | hr
  · exact hroots r hr
  · obtain rfl := List.mem_singleton.1 hr
    exact Bool.eq_false_iff.2 fun hempty => h (.inl hempty)

theorem distinct_concat {roots : List Path} {dir : Path} (h : ¬Covered roots dir)
    (hroots : roots.Pairwise fun p q => ¬p ≈ q) :
    (roots ++ [dir]).Pairwise fun p q => ¬p ≈ q := by
  refine List.pairwise_append.2 ⟨hroots, List.pairwise_singleton _ _, fun r hr q hq hsame => ?_⟩
  obtain rfl := List.mem_singleton.1 hq
  exact h (.inr ⟨r, hr, hsame⟩)

/-- Adds a directory with the lowest precedence so far. -/
def push (s : SearchPath) (dir : Path) : SearchPath :=
  if h : Covered s.roots dir then s
  else ⟨s.roots ++ [dir], nonempty_concat h s.nonempty, distinct_concat h s.distinct⟩

/-- Adds the directories of a list one after another. -/
def ofList (dirs : List Path) : SearchPath := dirs.foldl push {}

def size (s : SearchPath) : Nat := s.roots.length

def isEmpty (s : SearchPath) : Bool := s.roots.isEmpty

/-- The directory a file stands in; a bare file name stands in the working directory. -/
def sourceDirectory (source : Path) : Path :=
  match source.parent? with
  | some dir => if dir.isEmpty then "." else dir
  | none => "."

/-- The directory of the source, the included directories in order, then the standard library. -/
def forSource (source : Path) (included : List Path) (stdlib : Path) : SearchPath :=
  ofList (sourceDirectory source :: included ++ [stdlib])

end SearchPath

end WasmBundle
