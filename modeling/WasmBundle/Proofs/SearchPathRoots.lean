import Mathlib.Data.List.Induction
import WasmBundle.Config
import WasmBundle.Proofs.DistinctRoots
import WasmBundle.Proofs.PathSteps

/-!
# Which directories a search path keeps

Directories that are pushed one after another leave the first spelling of each, in the order of the
pushes: `firstSpellings` says so by positions in the list, and `roots_foldl_push_eq` that pushing
comes to the same. So every directory that is pushed is searched under some spelling, unless it is
empty, and a valid configuration loses none of its directories.
-/

namespace WasmBundle.Proofs

/-- The path is at the position in the list, not empty, and equivalent to none before it. -/
def FirstSpelled (dirs : List Path) (d : Path × Nat) : Prop :=
  d.1.isEmpty = false ∧ ∀ e ∈ dirs.take d.2, ¬e ≈ d.1

instance (dirs : List Path) : DecidablePred (FirstSpelled dirs) := fun _ =>
  inferInstanceAs (Decidable (_ ∧ _))

/-- The paths of the list that are not empty and equivalent to none before them. -/
def firstSpellings (dirs : List Path) : List Path :=
  (dirs.zipIdx.filter (FirstSpelled dirs ·)).map Prod.fst

lemma firstSpelled_append {dirs : List Path} {d : Path × Nat} (h : d ∈ dirs.zipIdx)
    (more : List Path) : FirstSpelled (dirs ++ more) d ↔ FirstSpelled dirs d := by
  have hlt := List.snd_lt_of_mem_zipIdx h
  rw [FirstSpelled, FirstSpelled, List.take_append_of_le_length (by omega)]

lemma firstSpelled_last (dirs more : List Path) (dir : Path) :
    FirstSpelled (dirs ++ more) (dir, dirs.length) ↔ ¬SearchPath.Covered dirs dir := by
  rw [FirstSpelled, List.take_left, SearchPath.Covered]
  simp only [not_or, Bool.not_eq_true, not_exists, not_and]

/-- A path comes to the end if it is not empty and equivalent to none so far. -/
lemma firstSpellings_concat (dirs : List Path) (dir : Path) :
    firstSpellings (dirs ++ [dir]) = firstSpellings dirs ++ unlessKnown dirs dir := by
  have hfront : dirs.zipIdx.filter (FirstSpelled (dirs ++ [dir]) ·) =
      dirs.zipIdx.filter (FirstSpelled dirs ·) :=
    List.filter_congr fun d hd => decide_eq_decide.2 (firstSpelled_append hd [dir])
  have hnext : [dir].zipIdx (0 + dirs.length) = [(dir, dirs.length)] := by
    rw [Nat.zero_add]
    rfl
  rw [firstSpellings, List.zipIdx_append, List.filter_append, hfront, List.map_append, hnext]
  refine congrArg (firstSpellings dirs ++ ·) ?_
  unfold unlessKnown
  by_cases hleft : SearchPath.Covered dirs dir
  · simp only [List.filter_cons, firstSpelled_last, hleft, not_true, decide_false, ite_true]
    rfl
  · simp only [List.filter_cons, firstSpelled_last, hleft, not_false_iff, decide_true, ite_true,
      ite_false]
    rfl

lemma mem_of_mem_firstSpellings {dirs : List Path} {dir : Path} (h : dir ∈ firstSpellings dirs) :
    dir ∈ dirs ∧ dir.isEmpty = false := by
  obtain ⟨d, hd, rfl⟩ := List.mem_map.1 h
  obtain ⟨hmem, hfirst⟩ := List.mem_filter.1 hd
  exact ⟨List.fst_mem_of_mem_zipIdx hmem, (decide_eq_true_iff.1 hfirst).1⟩

lemma isEmpty_congr {p q : Path} (h : p ≈ q) : p.isEmpty = q.isEmpty := by
  have hcomponents : p.components = q.components := h
  rw [Bool.eq_iff_iff, ← components_eq_nil_iff, ← components_eq_nil_iff, hcomponents]

lemma exists_mem_firstSpellings {dirs : List Path} {dir : Path} (h : dir ∈ dirs)
    (hdir : dir.isEmpty = false) : ∃ r ∈ firstSpellings dirs, r ≈ dir := by
  induction dirs using List.reverseRecOn generalizing dir with
  | nil => cases h
  | append_singleton dirs last ih =>
    rw [firstSpellings_concat]
    rcases List.mem_append.1 h with h | h
    · obtain ⟨r, hr, hsame⟩ := ih h hdir
      exact ⟨r, List.mem_append_left _ hr, hsame⟩
    · obtain rfl := List.mem_singleton.1 h
      by_cases hknown : ∃ e ∈ dirs, e ≈ dir
      · obtain ⟨e, he, hequiv⟩ := hknown
        obtain ⟨r, hr, hsame⟩ := ih he ((isEmpty_congr hequiv).trans hdir)
        exact ⟨r, List.mem_append_left _ hr, Eq.trans hsame hequiv⟩
      · refine ⟨dir, List.mem_append_right _ ?_, rfl⟩
        rw [unlessKnown, if_neg (by simp [SearchPath.Covered, hdir, hknown])]
        exact List.mem_singleton_self dir

/-- A path is known from the first spellings if it is known from the list. -/
lemma exists_equiv_iff {dirs : List Path} {dir : Path} (hdir : dir.isEmpty = false) :
    (∃ r ∈ firstSpellings dirs, r ≈ dir) ↔ ∃ e ∈ dirs, e ≈ dir := by
  constructor
  · rintro ⟨r, hr, hequiv⟩
    exact ⟨r, (mem_of_mem_firstSpellings hr).1, hequiv⟩
  · rintro ⟨e, he, hequiv⟩
    obtain ⟨r, hr, hsame⟩ := exists_mem_firstSpellings he ((isEmpty_congr hequiv).trans hdir)
    exact ⟨r, hr, Eq.trans hsame hequiv⟩

/-- A path that is known already leaves those that are equivalent to it no place. -/
lemma unlessKnown_cons (known : Path) (dirs : List Path) (dir : Path) :
    unlessKnown (known :: dirs) dir = (unlessKnown dirs dir).filter fun e => ¬e ≈ known := by
  unfold unlessKnown
  by_cases hleft : SearchPath.Covered dirs dir
  · have hknown : SearchPath.Covered (known :: dirs) dir :=
      hleft.imp id fun ⟨e, he, h⟩ => ⟨e, List.mem_cons_of_mem _ he, h⟩
    rw [if_pos hleft, if_pos hknown]
    rfl
  · rw [if_neg hleft]
    by_cases hsame : dir ≈ known
    · rw [if_pos (.inr ⟨known, List.mem_cons_self, Eq.symm hsame⟩),
        List.filter_cons_of_neg (by simpa using hsame), List.filter_nil]
    · have hnew : ¬SearchPath.Covered (known :: dirs) dir := by
        rintro (hempty | ⟨e, he, hequiv⟩)
        · exact hleft (.inl hempty)
        · rcases List.mem_cons.1 he with rfl | he
          · exact hsame (Eq.symm hequiv)
          · exact hleft (.inr ⟨e, he, hequiv⟩)
      rw [if_neg hnew, List.filter_cons_of_pos (by simpa using hsame), List.filter_nil]

lemma firstSpellings_cons {dir : Path} (hdir : dir.isEmpty = false) (dirs : List Path) :
    firstSpellings (dir :: dirs) = dir :: (firstSpellings dirs).filter fun e => ¬e ≈ dir := by
  induction dirs using List.reverseRecOn with
  | nil =>
    have hnone : ¬SearchPath.Covered [] dir := by simp [SearchPath.Covered, hdir]
    exact (firstSpellings_concat [] dir).trans (if_neg hnone)
  | append_singleton dirs last ih =>
    rw [← List.cons_append, firstSpellings_concat, ih, firstSpellings_concat, List.filter_append,
      List.cons_append, unlessKnown_cons]

lemma unlessKnown_firstSpellings (dirs : List Path) (dir : Path) :
    unlessKnown (firstSpellings dirs) dir = unlessKnown dirs dir := by
  unfold unlessKnown
  refine if_congr (or_congr_right' fun hdir => ?_) rfl rfl
  exact exists_equiv_iff (by simpa using hdir)

/-- Pushing keeps the first spellings. -/
theorem roots_ofList_eq (dirs : List Path) :
    (SearchPath.ofList dirs).roots = firstSpellings dirs := by
  induction dirs using List.reverseRecOn with
  | nil => rfl
  | append_singleton dirs dir ih =>
    rw [roots_ofList_concat, firstSpellings_concat, ih, unlessKnown_firstSpellings]

lemma roots_injective : Function.Injective SearchPath.roots := by
  rintro ⟨_, _, _⟩ ⟨_, _, _⟩ rfl
  rfl

/-- A list that has no path twice and none that is empty keeps all of them. -/
lemma firstSpellings_eq_self {dirs : List Path} (hdirs : ∀ dir ∈ dirs, dir.isEmpty = false)
    (h : dirs.Pairwise fun p q => ¬p ≈ q) : firstSpellings dirs = dirs := by
  induction dirs with
  | nil => rfl
  | cons dir rest ih =>
    obtain ⟨hdir, hrest⟩ := List.pairwise_cons.1 h
    have hkept : rest.filter (fun e => ¬e ≈ dir) = rest :=
      List.filter_eq_self.2 fun e he => decide_eq_true fun hequiv => hdir e he (Eq.symm hequiv)
    rw [firstSpellings_cons (hdirs dir List.mem_cons_self),
      ih (fun e he => hdirs e (List.mem_cons_of_mem _ he)) hrest, hkept]

/-- Of paths no two of which are equivalent, one that is equivalent to a path stands in one place.
-/
lemma existsUnique_position {roots : List Path} (h : roots.Pairwise fun p q => ¬p ≈ q) {dir : Path}
    (hdir : ∃ r ∈ roots, r ≈ dir) : ∃! i : Nat, ∃ r, roots[i]? = some r ∧ r ≈ dir := by
  have hlt : ∀ {i j : Nat} {r r' : Path}, roots[i]? = some r → roots[j]? = some r' → r ≈ dir →
      r' ≈ dir → ¬i < j := by
    intro i j r r' hi hj hr hr' hlt
    obtain ⟨hilt, rfl⟩ := List.getElem?_eq_some_iff.1 hi
    obtain ⟨hjlt, rfl⟩ := List.getElem?_eq_some_iff.1 hj
    exact List.pairwise_iff_getElem.1 h i j hilt hjlt hlt (Eq.trans hr (Eq.symm hr'))
  obtain ⟨r, hmem, hr⟩ := hdir
  obtain ⟨i, hi⟩ := List.mem_iff_getElem?.1 hmem
  refine ⟨i, ⟨r, hi, hr⟩, ?_⟩
  rintro j ⟨r', hj, hr'⟩
  exact Nat.le_antisymm (Nat.not_lt.1 (hlt hi hj hr hr')) (Nat.not_lt.1 (hlt hj hi hr' hr))

lemma isEmpty_sourceDirectory (source : Path) :
    (SearchPath.sourceDirectory source).isEmpty = false := by
  unfold SearchPath.sourceDirectory
  split
  · split
    · rfl
    · rename_i h
      simpa using h
  · rfl

lemma isEmpty_stdlibDir (i : Installation) : i.stdlibDir.isEmpty = false :=
  isEmpty_join_of_right i.root (by decide)

lemma forall_of_validate {c : Config} (h : c.validate = .ok ()) :
    ∀ dir ∈ c.includeDirs, dir.isEmpty = false :=
  (c.validate_eq_ok_iff.1 h).1

/-- The directory of a source, unless it has none or that is empty. -/
lemma sourceDirectory_cases (source : Path) :
    source.parent? = some (SearchPath.sourceDirectory source) ∨
      (∀ dir, source.parent? = some dir → dir.isEmpty = true) ∧
        SearchPath.sourceDirectory source = "." := by
  unfold SearchPath.sourceDirectory
  split
  · rename_i dir hdir
    split
    · rename_i hempty
      refine .inr ⟨fun d hd => ?_, rfl⟩
      rwa [← Option.some.inj (hdir.symm.trans hd)]
    · exact .inl hdir
  · rename_i hnone
    exact .inr ⟨fun d hd => (nomatch hnone.symm.trans hd), rfl⟩

/-- The roots before the standard library: the directory of the source and the included directories,
less those that are equivalent to it. -/
def frontRoots (own : Path) (included : List Path) : List Path :=
  own :: (firstSpellings included).filter fun dir => ¬dir ≈ own

lemma firstSpellings_front {own : Path} (hown : own.isEmpty = false) (included : List Path) :
    firstSpellings (own :: included) = frontRoots own included :=
  firstSpellings_cons hown included

lemma roots_forSource (source : Path) {stdlib : Path} (hstdlib : stdlib.isEmpty = false)
    (included : List Path) :
    (SearchPath.forSource source included stdlib).roots =
      frontRoots (SearchPath.sourceDirectory source) included ++
        if ∃ r ∈ frontRoots (SearchPath.sourceDirectory source) included, r ≈ stdlib then []
        else [stdlib] := by
  rw [SearchPath.forSource, roots_ofList_eq, firstSpellings_concat, ← unlessKnown_firstSpellings,
    firstSpellings_front (isEmpty_sourceDirectory source), unlessKnown]
  exact congrArg _ (if_congr (by simp [SearchPath.Covered, hstdlib]) rfl rfl)

/-- Pushing directories one after another keeps those that are not empty, each in its first spelling
and in the order of these, so that each is equivalent to exactly one root; making a search path of
the roots changes nothing. The search path of a valid configuration begins with the directory of the
source, has the included directories after it, less those equivalent to it, and ends with the
standard library, unless that is there already; none of them is left out. -/
theorem search_path_keeps_directories :
    (∀ dirs : List Path,
      (∀ r ∈ (dirs.foldl SearchPath.push {}).roots, r.isEmpty = false) ∧
      (dirs.foldl SearchPath.push {}).roots.Pairwise (fun p q => ¬p ≈ q) ∧
      (dirs.foldl SearchPath.push {}).roots = firstSpellings dirs ∧
      (∀ dir ∈ dirs, dir.isEmpty = false →
        ∃! i : Nat, ∃ r, (dirs.foldl SearchPath.push {}).roots[i]? = some r ∧ r ≈ dir) ∧
      SearchPath.ofList (dirs.foldl SearchPath.push {}).roots = dirs.foldl SearchPath.push {}) ∧
    ∀ (c : Config) (home source : Path), c.validate = .ok () → c.grainHome = some home →
      ∃ s own, c.searchPath source = .ok s ∧
        (source.parent? = some own ∧ own.isEmpty = false ∨
          (∀ dir, source.parent? = some dir → dir.isEmpty = true) ∧ own = ".") ∧
        s.roots = frontRoots own c.includeDirs ++
          (if ∃ r ∈ frontRoots own c.includeDirs, r ≈ (Installation.mk home).stdlibDir then []
          else [(Installation.mk home).stdlibDir]) ∧
        (∀ dir ∈ c.includeDirs, ∃ r ∈ frontRoots own c.includeDirs, r ≈ dir) ∧
        ∃ r ∈ s.roots, r ≈ (Installation.mk home).stdlibDir := by
  refine ⟨fun dirs => ?_, fun c home source hvalid hhome => ?_⟩
  · have hroots : (dirs.foldl SearchPath.push {}).roots = firstSpellings dirs :=
      roots_ofList_eq dirs
    have hnonempty := (dirs.foldl SearchPath.push {}).nonempty
    have hdistinct := (dirs.foldl SearchPath.push {}).distinct
    refine ⟨hnonempty, hdistinct, hroots, fun dir hdir hne => ?_, roots_injective ?_⟩
    · exact existsUnique_position hdistinct (hroots ▸ exists_mem_firstSpellings hdir hne)
    · rw [roots_ofList_eq, firstSpellings_eq_self hnonempty hdistinct]
  · have hown := isEmpty_sourceDirectory source
    have hroots := roots_forSource source (isEmpty_stdlibDir ⟨home⟩) c.includeDirs
    have hsearch : c.searchPath source =
        .ok (.forSource source c.includeDirs (Installation.mk home).stdlibDir) := by
      rw [Config.searchPath, Config.installation, hhome]
      rfl
    refine ⟨_, SearchPath.sourceDirectory source, hsearch, ?_, hroots, fun dir hdir => ?_, ?_⟩
    · exact (sourceDirectory_cases source).imp_left fun h => ⟨h, hown⟩
    · rw [← firstSpellings_front hown]
      exact exists_mem_firstSpellings (List.mem_cons_of_mem _ hdir)
        (forall_of_validate hvalid dir hdir)
    · rw [hroots]
      split
      · rename_i hknown
        obtain ⟨r, hr, hequiv⟩ := hknown
        exact ⟨r, List.mem_append_left _ hr, hequiv⟩
      · exact ⟨_, List.mem_append_right _ (List.mem_singleton_self _), rfl⟩

/-- A configuration that names the directory of a source, its own library twice and the standard
library. -/
def respellingConfig : Config where
  grainHome := some (.ofText "/g")
  includeDirs := ["src/.", "lib/", "/g//stdlib", "lib"]

theorem search_path_keeps_directories_respelled :
    respellingConfig.validate = .ok () ∧ respellingConfig.grainHome = some (.ofText "/g") ∧
    ∃ s, respellingConfig.searchPath "src/main.gr" = .ok s ∧
      s.roots = [.ofText "src", .ofText "lib/", .ofText "/g//stdlib"] := by
  have hvalid : respellingConfig.validate = .ok () := by decide
  obtain ⟨s, own, hs, hown, hroots, -⟩ :=
    search_path_keeps_directories.2 respellingConfig "/g" "src/main.gr" hvalid rfl
  have hparent : ("src/main.gr" : Path).parent? = some (.ofText "src") := by decide
  rcases hown with ⟨hown, -⟩ | ⟨hnone, -⟩
  · obtain rfl : .ofText "src" = own := Option.some.inj (hparent.symm.trans hown)
    exact ⟨hvalid, rfl, s, hs, hroots.trans (by decide)⟩
  · cases hnone _ hparent

end WasmBundle.Proofs
