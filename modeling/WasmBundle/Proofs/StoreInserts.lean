import Mathlib.Data.List.Induction
import Mathlib.Data.List.Basic
import WasmBundle.Proofs.ListingSpelling
import WasmBundle.Proofs.StoreViews

/-!
# Stores by their inserts

All that a store answers is settled by the inserts that have made it: of those under equivalent
paths the first gives the spelling and the last the bytes. So existence and reading agree, a listing
has the spelling of the first inserts in the order of components, and a file name is found below a
directory exactly when the listing of the directory has it.
-/

namespace WasmBundle.Proofs
open WasmBundle.Path

/-- The kinds of components in their order. -/
def componentRank : Component → Nat
  | .root => 0
  | .current => 1
  | .parent => 2
  | .normal _ => 3

/-- Components are ordered by their kinds, and names by their bytes. -/
inductive Precedes : Component → Component → Prop
  | kind {c d : Component} (h : componentRank c < componentRank d) : Precedes c d
  | name {a b : Bytes} (h : a < b) : Precedes (.normal a) (.normal b)

lemma precedes_cases (c d : Component) : Precedes c d ↔ componentRank c < componentRank d ∨
    ∃ a b, c = .normal a ∧ d = .normal b ∧ a < b := by
  constructor
  · rintro (h | h)
    · exact .inl h
    · exact .inr ⟨_, _, rfl, rfl, h⟩
  · rintro (h | ⟨a, b, rfl, rfl, h⟩)
    · exact .kind h
    · exact .name h

lemma precedes_iff (c d : Component) : Precedes c d ↔ c.key < d.key := by
  rw [precedes_cases]
  cases c <;> cases d <;> simp [componentRank, Component.key, List.cons_lt_cons_iff]

lemma key_injective : Function.Injective Component.key := by
  intro c d h
  cases c <;> cases d <;> simp_all [Component.key]

lemma key_eq_key_iff {p q : Path} : p.key = q.key ↔ p ≈ q :=
  ⟨fun h => key_injective.list_map h, fun h => congrArg (List.map Component.key) h⟩

/-- Lists compare as their images do under a map that keeps the order and tells all apart. -/
lemma lex_map_iff {α β : Type} {r : α → α → Prop} {s : β → β → Prop} {f : α → β}
    (hf : Function.Injective f) (hr : ∀ a b, r a b ↔ s (f a) (f b)) (l l' : List α) :
    List.Lex r l l' ↔ List.Lex s (l.map f) (l'.map f) := by
  induction l generalizing l' with
  | nil => cases l' <;> simp
  | cons a l ih =>
    cases l' with
    | nil => simp
    | cons b l' =>
      simp only [List.map_cons, List.cons_lex_cons_iff, hr, ih, hf.eq_iff]

lemma lex_precedes_iff (p q : Path) :
    List.Lex Precedes p.components q.components ↔ p.key < q.key :=
  lex_map_iff key_injective precedes_iff _ _

section Under

variable {ε : Type} {path : ε → Path} {l : List ε} {x : ε} {q : Path}

/-- The first element that stands under an equivalent path. -/
def firstUnder (path : ε → Path) (l : List ε) (q : Path) : Option ε := l.find? fun x => path x ≈ q

/-- The last element that stands under an equivalent path. -/
def lastUnder (path : ε → Path) (l : List ε) (q : Path) : Option ε := firstUnder path l.reverse q

lemma firstUnder_cons_of_equiv (h : path x ≈ q) : firstUnder path (x :: l) q = some x :=
  List.find?_cons_of_pos (decide_eq_true h)

lemma firstUnder_cons_of_not_equiv (h : ¬path x ≈ q) :
    firstUnder path (x :: l) q = firstUnder path l q :=
  List.find?_cons_of_neg (by rw [decide_eq_true_iff]; exact h)

lemma firstUnder_eq_none (h : ∀ x ∈ l, ¬path x ≈ q) : firstUnder path l q = none :=
  List.find?_eq_none.2 fun x hx => by rw [decide_eq_true_iff]; exact h x hx

lemma firstUnder_eq_some_iff : firstUnder path l q = some x ↔
    path x ≈ q ∧ ∃ earlier later, l = earlier ++ x :: later ∧ ∀ y ∈ earlier, ¬path y ≈ q := by
  simp only [firstUnder, List.find?_eq_some_iff_append, decide_eq_true_eq, Bool.not_eq_true',
    decide_eq_false_iff_not]

lemma lastUnder_eq_some_iff : lastUnder path l q = some x ↔
    path x ≈ q ∧ ∃ earlier later, l = earlier ++ x :: later ∧ ∀ y ∈ later, ¬path y ≈ q := by
  rw [lastUnder, firstUnder_eq_some_iff]
  refine and_congr_right fun _ => ⟨?_, ?_⟩
  · rintro ⟨later, earlier, hsplit, hlater⟩
    refine ⟨earlier.reverse, later.reverse, ?_, fun y hy => hlater y (List.mem_reverse.1 hy)⟩
    rw [← List.reverse_inj, hsplit]
    simp
  · rintro ⟨earlier, later, rfl, hlater⟩
    exact ⟨later.reverse, earlier.reverse, by simp, fun y hy => hlater y (List.mem_reverse.1 hy)⟩

end Under

lemma path_equiv_of_not_lt {p q : Path} (hpq : ¬p.key < q.key) (hqp : ¬q.key < p.key) : p ≈ q :=
  key_eq_key_iff.1 (List.le_antisymm (List.not_lt.1 hqp) (List.not_lt.1 hpq))

lemma not_equiv_of_key_lt {p q r : Path} (h : p.key < q.key) (hp : p ≈ r) : ¬q ≈ r := by
  intro hq
  rw [key_eq_key_iff.2 (hp.trans hq.symm)] at h
  exact absurd h (List.lt_irrefl _)

/-- A file goes where its path belongs, or gives its bytes to the one that is there. -/
lemma firstUnder_insert {files : List StoredFile} (h : Increasing StoredFile.key files)
    (x : StoredFile) (q : Path) :
    firstUnder StoredFile.path (Increasing.insert StoredFile.key StoredFile.refill x files) q =
      if x.path ≈ q then
        some (((firstUnder StoredFile.path files q).map fun f => f.refill x).getD x)
      else firstUnder StoredFile.path files q := by
  induction files with
  | nil =>
    by_cases hx : x.path ≈ q
    · rw [if_pos hx]
      exact firstUnder_cons_of_equiv hx
    · rw [if_neg hx]
      exact firstUnder_cons_of_not_equiv hx
  | cons y files ih =>
    obtain ⟨hy, hfiles⟩ := List.pairwise_cons.1 h
    simp only [Increasing.insert]
    by_cases hxy : x.key < y.key
    · -- The new file goes in front: all that follow have greater keys, so other paths than its own.
      rw [if_pos hxy]
      by_cases hx : x.path ≈ q
      · have hnone : firstUnder StoredFile.path (y :: files) q = none := by
          refine firstUnder_eq_none fun f hf => not_equiv_of_key_lt ?_ hx
          rcases List.mem_cons.1 hf with rfl | hf
          · exact hxy
          · exact List.lt_trans hxy (hy f hf)
        rw [if_pos hx, hnone, firstUnder_cons_of_equiv hx]
        rfl
      · rw [if_neg hx, firstUnder_cons_of_not_equiv hx]
    · rw [if_neg hxy]
      by_cases hyx : y.key < x.key
      · rw [if_pos hyx]
        by_cases hyq : y.path ≈ q
        · have hx : ¬x.path ≈ q := not_equiv_of_key_lt hyx hyq
          rw [if_neg hx, firstUnder_cons_of_equiv hyq, firstUnder_cons_of_equiv hyq]
        · rw [firstUnder_cons_of_not_equiv hyq, firstUnder_cons_of_not_equiv hyq, ih hfiles]
      · rw [if_neg hyx]
        have hequiv : y.path ≈ x.path := path_equiv_of_not_lt hyx hxy
        by_cases hx : x.path ≈ q
        · have hyq : y.path ≈ q := hequiv.trans hx
          have hfilled : (y.refill x).path ≈ q := hyq
          rw [if_pos hx, firstUnder_cons_of_equiv hfilled, firstUnder_cons_of_equiv hyq]
          rfl
        · have hyq : ¬y.path ≈ q := fun hyq => hx (hequiv.symm.trans hyq)
          have hfilled : ¬(y.refill x).path ≈ q := hyq
          rw [if_neg hx, firstUnder_cons_of_not_equiv hfilled, firstUnder_cons_of_not_equiv hyq]

lemma find?_insert (s : Store) (path : Path) (bytes : Bytes) (q : Path) :
    (s.insert path bytes).find? q =
      if path ≈ q then some (((s.find? q).map fun f => f.refill ⟨path, bytes⟩).getD ⟨path, bytes⟩)
      else s.find? q :=
  firstUnder_insert s.increasing ⟨path, bytes⟩ q

section Inserts

variable {inserts : List (Path × Bytes)} {p : Path}

lemma ofList_concat (inserts : List (Path × Bytes)) (x : Path × Bytes) :
    Store.ofList (inserts ++ [x]) = (Store.ofList inserts).insert x.1 x.2 := by
  rw [Store.ofList, List.foldl_append]
  rfl

/-- The store has the spelling of the first insert under a path. -/
theorem path_find?_ofList (inserts : List (Path × Bytes)) (p : Path) :
    ((Store.ofList inserts).find? p).map StoredFile.path =
      (firstUnder Prod.fst inserts p).map Prod.fst := by
  induction inserts using List.reverseRecOn with
  | nil => rfl
  | append_singleton inserts x ih =>
    have hconcat : firstUnder Prod.fst (inserts ++ [x]) p =
        (firstUnder Prod.fst inserts p).or (firstUnder Prod.fst [x] p) := List.find?_append
    rw [ofList_concat, find?_insert, hconcat]
    by_cases hx : x.1 ≈ p
    · rw [if_pos hx, firstUnder_cons_of_equiv hx]
      cases hs : (Store.ofList inserts).find? p with
      | none =>
        rw [hs, Option.map_none, eq_comm, Option.map_eq_none_iff] at ih
        rw [ih]
        rfl
      | some f =>
        rw [hs, Option.map_some, eq_comm, Option.map_eq_some_iff] at ih
        obtain ⟨first, hfirst, hpath⟩ := ih
        rw [hfirst]
        exact congrArg some hpath.symm
    · rw [if_neg hx, firstUnder_cons_of_not_equiv hx, ih]
      exact congrArg (Option.map Prod.fst) (Option.or_none).symm

/-- The store has the bytes of the last insert under a path. -/
theorem bytes_find?_ofList (inserts : List (Path × Bytes)) (p : Path) :
    ((Store.ofList inserts).find? p).map StoredFile.bytes =
      (lastUnder Prod.fst inserts p).map Prod.snd := by
  induction inserts using List.reverseRecOn with
  | nil => rfl
  | append_singleton inserts x ih =>
    rw [ofList_concat, find?_insert, lastUnder, List.reverse_concat]
    by_cases hx : x.1 ≈ p
    · rw [if_pos hx, firstUnder_cons_of_equiv hx]
      cases (Store.ofList inserts).find? p <;> rfl
    · rw [if_neg hx, firstUnder_cons_of_not_equiv hx, ih]
      rfl

lemma isFile_ofList_iff : (Store.ofList inserts).source.isFile p = true ↔
    ∃ f ∈ inserts, f.1 ≈ p := by
  have hsome := congrArg Option.isSome (path_find?_ofList inserts p)
  rw [Option.isSome_map, Option.isSome_map] at hsome
  change ((Store.ofList inserts).find? p).isSome = true ↔ _
  rw [hsome, firstUnder, List.find?_isSome]
  simp only [decide_eq_true_eq]

lemma read_eq_ok_iff {s : Store} {bytes : Bytes} :
    s.read p = .ok bytes ↔ (s.find? p).map StoredFile.bytes = some bytes := by
  rw [Store.read]
  cases s.find? p <;> simp

lemma isFile_iff_read {s : Store} :
    s.source.isFile p = true ↔ ∃ bytes, s.source.read p = .ok bytes := by
  change (s.find? p).isSome = true ↔ ∃ bytes, s.read p = .ok bytes
  simp only [read_eq_ok_iff]
  cases s.find? p <;> simp

/-- What is read is what the last insert under the path has brought. -/
lemma read_ofList_iff {bytes : Bytes} : (Store.ofList inserts).source.read p = .ok bytes ↔
    ∃ earlier q later, inserts = earlier ++ (q, bytes) :: later ∧ q ≈ p ∧
      ∀ f ∈ later, ¬f.1 ≈ p := by
  change (Store.ofList inserts).read p = .ok bytes ↔ _
  rw [read_eq_ok_iff, bytes_find?_ofList, Option.map_eq_some_iff]
  constructor
  · rintro ⟨⟨q, _⟩, hlast, rfl⟩
    obtain ⟨hq, earlier, later, hsplit, hlater⟩ := lastUnder_eq_some_iff.1 hlast
    exact ⟨earlier, q, later, hsplit, hq, hlater⟩
  · rintro ⟨earlier, q, later, hsplit, hq, hlater⟩
    exact ⟨(q, bytes), lastUnder_eq_some_iff.2 ⟨hq, earlier, later, hsplit, hlater⟩, rfl⟩

lemma artifacts_increasing (s : Store) (dir : Path) (ext : String) :
    (s.artifacts dir ext).Pairwise fun p q =>
      List.Lex Precedes p.components q.components ∧ ¬p ≈ q := by
  refine (List.pairwise_map.2 (s.increasing.imp fun h => ?_)).filter _
  exact ⟨(lex_precedes_iff _ _).2 h, fun heq => absurd heq.symm (not_equiv_of_key_lt h rfl)⟩

/-- The paths under which the store has files are the first spellings. -/
lemma path_mem_files_iff {q : Path} : (∃ f ∈ (Store.ofList inserts).files, f.path = q) ↔
    ∃ earlier bytes later, inserts = earlier ++ (q, bytes) :: later ∧
      ∀ f ∈ earlier, ¬f.1 ≈ q := by
  have hfind : (∃ f ∈ (Store.ofList inserts).files, f.path = q) ↔
      ((Store.ofList inserts).find? q).map StoredFile.path = some q := by
    rw [Option.map_eq_some_iff]
    constructor
    · rintro ⟨f, hf, rfl⟩
      exact ⟨f, find?_eq_some_iff.2 ⟨hf, rfl⟩, rfl⟩
    · rintro ⟨f, hf, hq⟩
      exact ⟨f, (find?_eq_some_iff.1 hf).1, hq⟩
  rw [hfind, path_find?_ofList, Option.map_eq_some_iff]
  constructor
  · rintro ⟨⟨_, bytes⟩, hfirst, rfl⟩
    obtain ⟨-, earlier, later, hsplit, hearlier⟩ := firstUnder_eq_some_iff.1 hfirst
    exact ⟨earlier, bytes, later, hsplit, hearlier⟩
  · rintro ⟨earlier, bytes, later, hsplit, hearlier⟩
    exact ⟨(q, bytes), firstUnder_eq_some_iff.2 ⟨rfl, earlier, later, hsplit, hearlier⟩, rfl⟩

lemma mem_artifacts_ofList_iff {dir q : Path} {ext : String} :
    q ∈ (Store.ofList inserts).artifacts dir ext ↔
      (∃ earlier bytes later, inserts = earlier ++ (q, bytes) :: later ∧
        ∀ f ∈ earlier, ¬f.1 ≈ q) ∧
      (∃ parent, q.parent? = some parent ∧ parent ≈ dir) ∧
      ∃ name, q.fileText? = some name ∧ ("." ++ ext).toList <:+ name.toList := by
  rw [Store.artifacts, List.mem_filter, List.mem_map, path_mem_files_iff]
  simp only [Store.isArtifact, Bool.and_eq_true, Option.any_eq_true, decide_eq_true_eq,
    List.isSuffixOf_iff_suffix]

lemma fileName_of_ending {name : Bytes} {ext : String}
    (hending : ("." ++ ext).toList <:+ name.shown.toList) (hsep : separator ∉ name)
    (hdot : name ≠ [dot]) (hdots : name ≠ up) : FileName name where
  noSeparator := hsep
  isStep := by
    have hempty : name ≠ [] := by
      rintro rfl
      have hnone : ("." ++ ext).toList = [] := List.suffix_nil.1 hending
      simp at hnone
    simp [ignorable, hempty, hdot]
  notParent := hdots

/-- A file name is found below a directory exactly if the listing of the directory has it. -/
lemma isFile_join_iff {s : Store} {dir : Path} {name : Bytes} {ext : String} (hname : FileName name)
    (hending : ("." ++ ext).toList <:+ name.shown.toList) :
    s.source.isFile (dir.join ⟨name⟩) = true ↔ ∃ q ∈ s.artifacts dir ext, q ≈ dir.join ⟨name⟩ := by
  have hjoin : (dir.join ⟨name⟩).components = dir.components ++ [.normal name] := by
    have hconcat := joined_concat dir.components [] name
    rw [List.nil_append] at hconcat
    rw [components_join, hname.components, hconcat]
    by_cases hdir : dir.components = [] <;> simp [joined, hdir]
  change (s.find? (dir.join ⟨name⟩)).isSome = true ↔ _
  rw [Option.isSome_iff_exists]
  constructor
  · rintro ⟨f, hf⟩
    obtain ⟨hmem, hpath⟩ := find?_eq_some_iff.1 hf
    exact ⟨f.path, mem_artifacts_iff.2 ⟨⟨f, hmem, rfl⟩, name, Eq.trans hpath hjoin, hending⟩, hpath⟩
  · rintro ⟨q, hq, hequiv⟩
    obtain ⟨⟨f, hmem, rfl⟩, -⟩ := mem_artifacts_iff.1 hq
    exact ⟨f, find?_eq_some_iff.2 ⟨hmem, hequiv⟩⟩

end Inserts

/-- A store made by any sequence of inserts has a file under a path exactly if the path can be read,
and if some insert was under an equivalent path; what is read are the bytes of the last such insert.
The listing of a directory has the paths of the files directly in the directory whose name is shown
as a text that ends as wanted, in strictly increasing order of their components and as the first
insert under an equivalent path spelt them, and no others. So a file name that ends so is found
below the directory exactly if the listing has it. -/
theorem store_settled_by_inserts (inserts : List (Path × Bytes)) :
    let files := (Store.ofList inserts).source
    (∀ p,
      (files.isFile p = true ↔ ∃ bytes, files.read p = .ok bytes) ∧
      (files.isFile p = true ↔ ∃ f ∈ inserts, f.1 ≈ p) ∧
      ∀ bytes, files.read p = .ok bytes ↔
        ∃ earlier q later, inserts = earlier ++ (q, bytes) :: later ∧ q ≈ p ∧
          ∀ f ∈ later, ¬f.1 ≈ p) ∧
    ∀ dir ext, ∃ listing, files.artifacts dir ext = .ok listing ∧
      (listing.Pairwise fun p q => List.Lex Precedes p.components q.components ∧ ¬p ≈ q) ∧
      (∀ q, q ∈ listing ↔
        (∃ earlier bytes later, inserts = earlier ++ (q, bytes) :: later ∧
          ∀ f ∈ earlier, ¬f.1 ≈ q) ∧
        (∃ parent, q.parent? = some parent ∧ parent ≈ dir) ∧
        ∃ name, q.fileText? = some name ∧ ("." ++ ext).toList <:+ name.toList) ∧
      ∀ name : Bytes, ("." ++ ext).toList <:+ name.shown.toList → separator ∉ name →
        name ≠ [dot] → name ≠ up →
        (files.isFile (dir.join ⟨name⟩) = true ↔ ∃ q ∈ listing, q ≈ dir.join ⟨name⟩) := by
  refine ⟨fun p => ⟨isFile_iff_read, isFile_ofList_iff, fun bytes => read_ofList_iff⟩,
    fun dir ext => ⟨_, rfl, artifacts_increasing _ dir ext, fun q => mem_artifacts_ofList_iff, ?_⟩⟩
  intro name hending hsep hdot hdots
  exact isFile_join_iff (fileName_of_ending hending hsep hdot hdots) hending

/-- Two spellings of a path, a path in another directory and a path of another kind. -/
def respelledInserts : List (Path × Bytes) :=
  [("lib//a.gr.wasm", [1]), ("./lib/a.gr.wasm", [2]), ("lib/a.gr", [3]),
    ("lib/./a.gr.wasm/", [4])]

/-- The directory and the file name are spelt in a third way. -/
theorem store_settled_by_inserts_respelled :
    let name := Bytes.utf8 "a.gr.wasm"
    ("." ++ "gr.wasm").toList <:+ name.shown.toList ∧ separator ∉ name ∧ name ≠ [dot] ∧ name ≠ up ∧
    (Store.ofList respelledInserts).source.read "lib/./a.gr.wasm" = .ok [4] ∧
    ∃ listing, (Store.ofList respelledInserts).source.artifacts "lib/." "gr.wasm" = .ok listing ∧
      .ofText "lib//a.gr.wasm" ∈ listing ∧ ∃ q ∈ listing, q ≈ ("lib/." : Path).join ⟨name⟩ := by
  intro name
  have hending : ("." ++ "gr.wasm").toList <:+ name.shown.toList := by decide
  have hsep : separator ∉ name := by decide
  have hdot : name ≠ [dot] := by decide
  have hdots : name ≠ up := by decide
  obtain ⟨hpaths, hlistings⟩ := store_settled_by_inserts respelledInserts
  obtain ⟨listing, hlisting, -, hmem, hnames⟩ := hlistings "lib/." "gr.wasm"
  have hread := (hpaths "lib/./a.gr.wasm").2.2 [4]
  have hexists := (hpaths (("lib/." : Path).join ⟨name⟩)).2.1
  refine ⟨hending, hsep, hdot, hdots, hread.2 ?_, listing, hlisting, (hmem _).2 ?_, ?_⟩
  · exact ⟨respelledInserts.take 3, "lib/./a.gr.wasm/", [], rfl, by decide, by decide⟩
  · exact ⟨⟨[], [1], respelledInserts.drop 1, rfl, by decide⟩, ⟨"lib", by decide, by decide⟩,
      "a.gr.wasm", by decide, by decide⟩
  · refine (hnames name hending hsep hdot hdots).1 (hexists.2 ?_)
    exact ⟨("lib//a.gr.wasm", [1]), List.mem_cons_self, by decide⟩

end WasmBundle.Proofs
