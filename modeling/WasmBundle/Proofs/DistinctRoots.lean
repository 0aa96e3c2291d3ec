import Mathlib.Data.List.Induction
import WasmBundle.Proofs.NameResolution
import WasmBundle.Proofs.StoreViews

/-!
# Roots that are there twice

A search path made from a list of roots keeps the first spelling of each. A root that is left out is
equivalent to an earlier one and so has the same files; nothing is found in it that was not found
before. Probing the roots that are kept therefore finds what probing the whole list would find, in
the same root, and asks for no candidate twice.
-/

namespace WasmBundle.Proofs

/-- The directory as a list, unless it need not be added to those that are there. -/
def unlessKnown (dirs : List Path) (dir : Path) : List Path :=
  if SearchPath.Covered dirs dir then [] else [dir]

lemma roots_push (s : SearchPath) (dir : Path) :
    (s.push dir).roots = s.roots ++ unlessKnown s.roots dir := by
  unfold SearchPath.push unlessKnown
  split
  · exact (List.append_nil _).symm
  · rfl

lemma roots_ofList_concat (dirs : List Path) (dir : Path) :
    (SearchPath.ofList (dirs ++ [dir])).roots =
      (SearchPath.ofList dirs).roots ++ unlessKnown (SearchPath.ofList dirs).roots dir := by
  rw [SearchPath.ofList, List.foldl_append]
  exact roots_push _ dir

lemma roots_sublist (dirs : List Path) : (SearchPath.ofList dirs).roots.Sublist dirs := by
  induction dirs using List.reverseRecOn with
  | nil => exact .refl []
  | append_singleton dirs dir ih =>
    rw [roots_ofList_concat]
    refine ih.append ?_
    unfold unlessKnown
    split
    · exact List.nil_sublist _
    · exact .refl _

/-- What is first found in the list is first found among the roots that are kept, where equivalent
roots are found alike. -/
theorem find?_ofList {p : Path → Bool} (hp : ∀ q r : Path, q ≈ r → p q = p r)
    {dirs : List Path} (hdirs : ∀ dir ∈ dirs, dir.isEmpty = false) :
    (SearchPath.ofList dirs).roots.find? p = dirs.find? p := by
  induction dirs using List.reverseRecOn with
  | nil => rfl
  | append_singleton dirs dir ih =>
    have hfront := ih fun d hd => hdirs d (List.mem_append_left _ hd)
    have hdir : dir.isEmpty = false := hdirs dir (by simp)
    rw [roots_ofList_concat, List.find?_append, List.find?_append, hfront, unlessKnown]
    split
    · -- What was found in the directory was found in the root that it is equivalent to.
      rename_i hcovered
      obtain ⟨r, hr, hequiv⟩ := hcovered.resolve_left (by simp [hdir])
      cases hfound : dirs.find? p with
      | some q => rfl
      | none =>
        have hmissing : ¬p dir = true := by
          rw [hfound] at hfront
          rw [← hp r dir hequiv]
          exact List.find?_eq_none.1 hfront r hr
        rw [List.find?_cons_of_neg hmissing]
    · rfl

variable {s : Store}

lemma isFile_congr {p q : Path} (h : p ≈ q) : s.source.isFile p = s.source.isFile q := by
  have hcomponents : p.components = q.components := h
  have hsame : (fun f : StoredFile => decide (f.path ≈ p)) = fun f => decide (f.path ≈ q) := by
    funext f
    exact decide_eq_decide.2 (iff_of_eq (congrArg (f.path.components = ·) hcomponents))
  change (s.files.find? _).isSome = (s.files.find? _).isSome
  rw [hsame]

lemma isFile_join_congr (file : Path) {p q : Path} (h : p ≈ q) :
    s.source.isFile (p.join file) = s.source.isFile (q.join file) := by
  have hcomponents : p.components = q.components := h
  refine isFile_congr ?_
  change (p.join file).components = (q.join file).components
  rw [components_join, components_join, hcomponents]

/-- A probing resolver over the search path that is made from the list. -/
def probing (dirs : List Path) (extension : String) : Resolver :=
  { searchPath := .ofList dirs, extension := extension, strategy := .probe }

/-- Where a root would have the artifact of an import name. -/
def candidate (extension name : String) (root : Path) : Path := 
  root.join (.ofText (name ++ "." ++ extension))

section Probing

variable {extension name : String} {dirs : List Path}

lemma find?_roots (s : Store) (extension name : String)
    (hdirs : ∀ dir ∈ dirs, dir.isEmpty = false) :
    (SearchPath.ofList dirs).roots.find? (s.source.isFile ∘ candidate extension name) =
      dirs.find? (s.source.isFile ∘ candidate extension name) :=
  find?_ofList (fun _ _ hequiv => isFile_join_congr _ hequiv) hdirs

lemma resolve_probing (s : Store) (extension name : String) (dirs : List Path) :
    (probing dirs extension).resolve s.source name =
      ⟨.ok (((SearchPath.ofList dirs).roots.find? (s.source.isFile ∘ candidate extension name)).map
          (candidate extension name)), probing dirs extension,
        (throughFirst (s.source.isFile ∘ candidate extension name)
          (SearchPath.ofList dirs).roots).map fun root =>
            .probe (candidate extension name root)⟩ := by
  have hcandidates : candidates (probing dirs extension).searchPath
      (probing dirs extension).extension name =
        (SearchPath.ofList dirs).roots.map (candidate extension name) := rfl
  rw [resolve_probe s.source (r := probing dirs extension) rfl name, hcandidates, List.find?_map,
    throughFirst_map, List.map_map]
  rfl

end Probing

/-- Probing the search path made from a list of directories that are not empty finds the artifact
that the first directory of the whole list has, spelled with that directory, and nothing exactly
when none of them has it. It asks for the candidates of the roots that are kept, which are the
directories less those equivalent to earlier ones, up to the one it answers with. -/
theorem first_root_wins (s : Store) (extension name : String) (dirs : List Path)
    (hdirs : ∀ dir ∈ dirs, dir.isEmpty = false) :
    (∀ p, ((probing dirs extension).resolve s.source name).answer = .ok (some p) ↔
      ∃ before dir after, dirs = before ++ dir :: after ∧ p = candidate extension name dir ∧
        s.source.isFile (candidate extension name dir) = true ∧
        ∀ d ∈ before, s.source.isFile (candidate extension name d) = false) ∧
    ((∃ p, ((probing dirs extension).resolve s.source name).answer = .ok (some p)) ↔
      ∃ dir ∈ dirs, s.source.isFile (candidate extension name dir) = true) ∧
    (((probing dirs extension).resolve s.source name).answer = .ok none ↔
      ∀ dir ∈ dirs, s.source.isFile (candidate extension name dir) = false) ∧
    ∃ asked, asked <+: (SearchPath.ofList dirs).roots ∧
      (SearchPath.ofList dirs).roots.Sublist dirs ∧
      ((probing dirs extension).resolve s.source name).trace =
        asked.map (fun root => .probe (candidate extension name root)) ∧
      asked.Pairwise (fun q r => ¬q ≈ r) ∧
      (∀ p, ((probing dirs extension).resolve s.source name).answer = .ok (some p) →
        ∃ front root, asked = front ++ [root] ∧ p = candidate extension name root ∧
          ∀ r ∈ front, s.source.isFile (candidate extension name r) = false) ∧
      (((probing dirs extension).resolve s.source name).answer = .ok none →
        asked = (SearchPath.ofList dirs).roots) := by
  have hkept := find?_roots s extension name hdirs
  have hprefix := throughFirst_isPrefix (s.source.isFile ∘ candidate extension name)
    (SearchPath.ofList dirs).roots
  rw [resolve_probing, hkept]
  simp only [Except.ok.injEq, Option.map_eq_some_iff, Option.map_eq_none_iff]
  refine ⟨fun p => ?_, ?_, ?_, _, hprefix, roots_sublist dirs, rfl, ?_, ?_, ?_⟩
  · constructor
    · rintro ⟨dir, hfound, rfl⟩
      obtain ⟨hfile, before, after, hsplit, hbefore⟩ := List.find?_eq_some_iff_append.1 hfound
      exact ⟨before, dir, after, hsplit, rfl, hfile, fun d hd => by simpa using hbefore d hd⟩
    · rintro ⟨before, dir, after, hsplit, rfl, hfile, hbefore⟩
      refine ⟨dir, List.find?_eq_some_iff_append.2 ⟨hfile, before, after, hsplit, ?_⟩, rfl⟩
      intro d hd
      simpa using hbefore d hd
  · constructor
    · rintro ⟨p, dir, hfound, rfl⟩
      have hfile : (s.source.isFile ∘ candidate extension name) dir = true :=
        List.find?_some hfound
      exact ⟨dir, List.mem_of_find?_eq_some hfound, hfile⟩
    · rintro ⟨dir, hdir, hfile⟩
      have hsome := (List.find?_isSome (p := s.source.isFile ∘ candidate extension name)).2
        ⟨dir, hdir, hfile⟩
      obtain ⟨first, hfirst⟩ := Option.isSome_iff_exists.1 hsome
      exact ⟨_, first, hfirst, rfl⟩
  · rw [List.find?_eq_none]
    simp only [Function.comp_apply, Bool.not_eq_true]
  · exact (SearchPath.ofList dirs).distinct.sublist hprefix.sublist
  · rintro p ⟨dir, hfound, rfl⟩
    rw [← hkept] at hfound
    obtain ⟨front, hfront, hmissing⟩ := throughFirst_of_some hfound
    exact ⟨front, dir, hfront, rfl, hmissing⟩
  · intro hnone
    rw [← hkept] at hnone
    exact throughFirst_of_none hnone

/-- A store with one file. -/
def libraryOfA : Store := Store.ofList [("lib/a.gr.wasm", [1])]

/-- The library is in the list in two spellings, the directory without the file too. -/
theorem first_root_wins_respelled :
    (∀ dir ∈ (["src", "lib/.", "src/", "lib"] : List Path), dir.isEmpty = false) ∧
    ((probing ["src", "lib/.", "src/", "lib"] "gr.wasm").resolve libraryOfA.source
      "a").answer = .ok (some (.ofText "lib/./a.gr.wasm")) ∧
    ((probing ["src", "lib/.", "src/", "lib"] "gr.wasm").resolve libraryOfA.source
      "b").answer = .ok none := by
  have hdirs : ∀ dir ∈ (["src", "lib/.", "src/", "lib"] : List Path),
      dir.isEmpty = false := by decide
  obtain ⟨hfound, -⟩ := first_root_wins libraryOfA "gr.wasm" "a" _ hdirs
  obtain ⟨-, -, hmissing, -⟩ := first_root_wins libraryOfA "gr.wasm" "b" _ hdirs
  refine ⟨hdirs, (hfound _).2 ?_, hmissing.2 (by decide)⟩
  exact ⟨["src"], "lib/.", ["src/", "lib"], rfl, by decide, by decide, by decide⟩

end WasmBundle.Proofs
