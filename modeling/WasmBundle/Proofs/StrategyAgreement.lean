import WasmBundle.Proofs.ImportSections
import WasmBundle.Proofs.StoreViews
import WasmBundle.Proofs.WalkClosure

/-!
# Both strategies walk alike

An indexing resolver answers with the store's spelling of what a probing resolver finds in a source
that shows the store, as long as the listings it keeps are those of the store; `Faithful` says so
and every resolution keeps it. A probing walk over such a source and an indexing walk over the store
therefore go in step: `InStep` holds of their states at all times, and they end alike. If the names
of the files are texts, the store shows itself. A name that is no text comes between the strategies:
the index has the file under the text that its name is shown as.
-/

namespace WasmBundle.Proofs
open Walk

/-- The listings a resolver keeps are what the store has in the directories they belong to. -/
def Faithful (s : Store) (r : Resolver) : Prop :=
  ∀ shelf paths, r.index.lookup shelf = some paths →
    ∃ root, r.searchPath.roots[shelf.position]? = some root ∧
      ∀ dir : Path, dir.components = joined root.components shelf.subdirectory →
        paths = s.artifacts dir r.extension

variable {s : Store}

lemma faithful_add {r : Resolver} (h : Faithful s r) {position : Nat} {root sub : Path}
    (hroot : r.searchPath.roots[position]? = some root) {dir : Path}
    (hdir : dir.components = joined root.components sub.components) :
    Faithful s { r with
      index := (⟨position, sub.components⟩, s.artifacts dir r.extension) :: r.index } := by
  intro shelf paths hl
  by_cases hs : shelf = ⟨position, sub.components⟩
  · subst hs
    rw [List.lookup_cons, beq_self_eq_true] at hl
    cases hl
    exact ⟨root, hroot, fun dir' hdir' => artifacts_congr (hdir.trans hdir'.symm) r.extension⟩
  · rw [List.lookup_cons, beq_eq_false_iff_ne.2 hs] at hl
    exact h shelf paths hl

/-- A listing that is kept or read holds what the store has in the directory. -/
theorem listing_eq {r : Resolver} (h : Faithful s r) {position : Nat} {root : Path}
    (hroot : r.searchPath.roots[position]? = some root) (sub : Path) :
    ∃ index trace, Resolver.listing s.source r position root sub =
      ⟨.ok (s.artifacts (root.join sub) r.extension), { r with index }, trace⟩ ∧
        Faithful s { r with index } := by
  have hjoin := components_join root sub
  cases hl : r.index.lookup ⟨position, sub.components⟩ with
  | some paths =>
    obtain ⟨root', hroot', hpaths⟩ := h _ _ hl
    cases hroot.symm.trans hroot'
    refine ⟨r.index, [], ?_, h⟩
    simp only [Resolver.listing, hl, hpaths _ hjoin]
  | none =>
    have hdir : (if sub.isEmpty then root else root.join sub).components =
        (root.join sub).components := (components_ite_isEmpty root sub).trans hjoin.symm
    have hart : s.source.artifacts (if sub.isEmpty then root else root.join sub) r.extension =
        .ok (s.artifacts (root.join sub) r.extension) :=
      congrArg Except.ok (artifacts_congr hdir r.extension)
    refine ⟨_, [.listing (if sub.isEmpty then root else root.join sub)], ?_,
      faithful_add h hroot hjoin⟩
    simp only [Resolver.listing, hl, hart]

/-- The path under the spelling of the store, if the store has a file that shows as the path. -/
def stored? (s : Store) (p : Path) : Option Path := (shownFile? s p).map StoredFile.path

theorem lookupRoots_eq {r : Resolver} (h : Faithful s r) {file sub : Path} {leaf : String}
    (hfile : file.components = sub.components ++ [.normal (Bytes.utf8 leaf)])
    (hleaf : ("." ++ r.extension).toList <:+ leaf.toList) {position : Nat} {roots : List Path}
    (hroots : r.searchPath.roots.drop position = roots) :
    ∃ index trace, Resolver.lookupRoots s.source sub leaf r position roots =
      ⟨.ok ((roots.map fun root => root.join file).findSome? (stored? s)), { r with index },
        trace⟩ ∧ Faithful s { r with index } := by
  induction roots generalizing r position with
  | nil => exact ⟨r.index, [], rfl, h⟩
  | cons root roots ih =>
    have hroot : r.searchPath.roots[position]? = some root := by
      rw [← List.head?_drop, hroots, List.head?_cons]
    obtain ⟨index, trace, hlist, hkept⟩ := listing_eq h hroot sub
    have hcandidate : (root.join file).components =
        (root.join sub).components ++ [.normal (Bytes.utf8 leaf)] := by
      rw [components_join, components_join, hfile, joined_concat]
    have hlookup : Resolver.lookup? (s.artifacts (root.join sub) r.extension) leaf =
        stored? s (root.join file) := lookup?_artifacts s hcandidate hleaf
    cases hfind : stored? s (root.join file) with
    | some p =>
      refine ⟨index, trace, ?_, hkept⟩
      simp only [Resolver.lookupRoots, hlist, hlookup, hfind, List.map_cons, List.findSome?_cons]
    | none =>
      have hrest : ({ r with index } : Resolver).searchPath.roots.drop (position + 1) = roots := by
        rw [← List.tail_drop, hroots, List.tail_cons]
      obtain ⟨index', trace', hlater, hkept'⟩ := ih hkept hleaf hrest
      refine ⟨index', trace ++ trace', ?_, hkept'⟩
      simp only [Resolver.lookupRoots, hlist, hlookup, hfind, hlater, List.map_cons,
        List.findSome?_cons]

/-- An indexing resolver answers with the first candidate that the store shows, in the spelling of
the store, and the listings it keeps stay those of the store. -/
theorem resolve_index {r : Resolver} (hr : r.strategy = .index)
    (hext : PlainExtension r.extension) (h : Faithful s r) (name : String) :
    ∃ index trace, r.resolve s.source name =
      ⟨.ok ((candidates r.searchPath r.extension name).findSome? (stored? s)), { r with index },
        trace⟩ ∧ Faithful s { r with index } := by
  obtain ⟨d, leaf, hfile, hleaf⟩ := components_artifact hext name
  obtain ⟨sub, hsub, hd⟩ := exists_parent? (by simp) hfile
  have hname : (Path.ofText (name ++ "." ++ r.extension)).fileText? = some leaf :=
    fileText?_eq_some_iff.2 ⟨_, fileName?_eq_some_iff.2 ⟨d, hfile⟩, shown_utf8 leaf⟩
  obtain ⟨index, trace, hlookup, hkept⟩ := lookupRoots_eq h (hd ▸ hfile) hleaf
    (List.drop_zero (l := r.searchPath.roots))
  refine ⟨index, trace, ?_, hkept⟩
  simp only [Resolver.resolve, hr, Resolver.artifactFileName, hsub, hname, Option.getD_some,
    hlookup]
  rfl

/-- A path that ends in a text, as all do where an import name is looked for. -/
def EndsInText (p : Path) : Prop := ∃ leaf, p.fileName? = some (Bytes.utf8 leaf)

/-- The source has under such a path what the store shows as the path. -/
structure Showing (s : Store) (src : FileSource) : Prop where
  isFile : ∀ p, EndsInText p → src.isFile p = (shownFile? s p).isSome
  read : ∀ p f, EndsInText p → shownFile? s p = some f → src.read p = .ok f.bytes

lemma endsInText_of_mem_candidates {searchPath : SearchPath} {ext name : String}
    (hext : PlainExtension ext) {p : Path} (h : p ∈ candidates searchPath ext name) :
    EndsInText p := by
  obtain ⟨root, -, rfl⟩ := List.mem_map.1 h
  obtain ⟨d, leaf, hfile, -⟩ := components_artifact hext name
  have hends : (root.join (.ofText (name ++ "." ++ ext))).components =
      joined root.components d ++ [.normal (Bytes.utf8 leaf)] := by
    rw [components_join, hfile, joined_concat]
  exact ⟨leaf, fileName?_eq_some_iff.2 ⟨_, hends⟩⟩

variable {src : FileSource}

lemma findSome?_stored? (hsrc : Showing s src) {paths : List Path}
    (h : ∀ p ∈ paths, EndsInText p) :
    paths.findSome? (stored? s) = (paths.find? src.isFile).bind (stored? s) := by
  induction paths with
  | nil => rfl
  | cons p paths ih =>
    have hlater := ih fun q hq => h q (List.mem_cons_of_mem _ hq)
    have hfile : src.isFile p = (stored? s p).isSome := by
      rw [stored?, Option.isSome_map, hsrc.isFile p (h p List.mem_cons_self)]
    cases hp : stored? s p with
    | some q =>
      rw [List.findSome?_cons_of_isSome, List.find?_cons_of_pos, Option.bind_some]
      all_goals simp [hp, hfile]
    | none =>
      rw [List.findSome?_cons_of_isNone, List.find?_cons_of_neg, hlater]
      all_goals simp [hp, hfile]

/-- Two walks ended alike: with the same modules in the same order, read from such paths, or with
the same name that is not found or the same module that cannot be scanned. -/
inductive Agree (such : Path → Path → Prop) :
    Except WalkError Resolution → Except WalkError Resolution → Prop
  | ok {p i : Resolution} (modules : i.modules = p.modules)
      (report : List.Forall₂ such p.report i.report) : Agree such (.ok p) (.ok i)
  | unresolved (name : String) :
      Agree such (.error (.unresolved name)) (.error (.unresolved name))
  | malformed (name : String) (fault : Wasm.Malformed) :
      Agree such (.error (.malformed name fault)) (.error (.malformed name fault))

/-- The path ends in a text, and the store shows the other one as it. -/
def ShownAs (s : Store) (p i : Path) : Prop := EndsInText p ∧ stored? s p = some i

/-- A probing and an indexing resolver for the same artifacts. -/
structure Matching (s : Store) (p i : Resolver) : Prop where
  probe : p.strategy = .probe
  index : i.strategy = .index
  searchPath : i.searchPath = p.searchPath
  extension : i.extension = p.extension
  plain : PlainExtension p.extension
  faithful : Faithful s i

/-- The states of a probing and of an indexing walk that have come equally far. -/
structure InStep (s : Store) (p i : State) : Prop where
  pending : i.pending = p.pending
  modules : i.loaded.modules = p.loaded.modules
  report : List.Forall₂ (ShownAs s) p.loaded.report i.loaded.report
  resolver : Matching s p.resolver i.resolver

variable {v : Conventions}

lemma resolve_matching (hsrc : Showing s src) {p i : Resolver} (h : Matching s p i)
    (name : String) :
    ∃ found tp ti i', p.resolve src name = ⟨.ok found, p, tp⟩ ∧
      i.resolve s.source name = ⟨.ok (found.bind (stored? s)), i', ti⟩ ∧
      (∀ path, found = some path → EndsInText path ∧ src.isFile path = true) ∧
      Matching s p i' := by
  obtain ⟨index, ti, hi, hkept⟩ := resolve_index h.index (h.extension ▸ h.plain) h.faithful name
  have hsame : candidates i.searchPath i.extension name =
      candidates p.searchPath p.extension name := by rw [h.searchPath, h.extension]
  rw [hsame, findSome?_stored? hsrc fun _ => endsInText_of_mem_candidates h.plain] at hi
  refine ⟨_, _, ti, _, resolve_probe src h.probe name, hi, fun path hp => ⟨?_, List.find?_some hp⟩,
    ⟨h.probe, h.index, h.searchPath, h.extension, h.plain, hkept⟩⟩
  exact endsInText_of_mem_candidates h.plain (List.mem_of_find?_eq_some hp)

/-- Both resolvers fetch the same module, or fail to for the same reason. -/
theorem fetch_matching (hsrc : Showing s src) {p i : Resolver} (h : Matching s p i)
    (name qualified : String) :
    (∃ m path tp ti i', fetch src v p name qualified = (.ok m, p, tp) ∧
      fetch s.source v i name qualified = (.ok { m with path }, i', ti) ∧ ShownAs s m.path path ∧
      Matching s p i') ∨
    ∃ e tp ti i', fetch src v p name qualified = (.error e, p, tp) ∧
      fetch s.source v i name qualified = (.error e, i', ti) ∧
      ∀ such, Agree such (.error e) (.error e) := by
  obtain ⟨found, tp, ti, i', hp, hi, hfile, hmatch⟩ := resolve_matching hsrc h name
  cases found with
  | none =>
    refine .inr ⟨.unresolved name, tp, ti, i', ?_, ?_, fun _ => .unresolved name⟩
    · simp only [fetch, hp]
    · simp only [fetch, hi, Option.bind_none]
  | some path =>
    obtain ⟨hends, hisFile⟩ := hfile path rfl
    obtain ⟨f, hf⟩ := Option.isSome_iff_exists.1 (hsrc.isFile path hends ▸ hisFile)
    have hstored : stored? s path = some f.path := by rw [stored?, hf, Option.map_some]
    have hread : src.read path = .ok f.bytes := hsrc.read path f hends hf
    have hread' : s.source.read f.path = .ok f.bytes :=
      read_of_find? (find?_eq_some_iff.2 ⟨mem_of_shownFile? hf, rfl⟩)
    rw [Option.bind_some, hstored] at hi
    cases himports : v.imports f.bytes with
    | error e =>
      refine .inr
        ⟨.malformed qualified e, tp ++ [.reading path], ti ++ [.reading f.path], i', ?_, ?_,
        fun _ => .malformed qualified e⟩
      · simp only [fetch, hp, hread, himports]
      · simp only [fetch, hi, hread', himports]
    | ok names =>
      refine .inl
        ⟨⟨path, f.bytes, names⟩, f.path, tp ++ [.reading path], ti ++ [.reading f.path], i',
        ?_, ?_, ⟨hends, hstored⟩, hmatch⟩
      · simp only [fetch, hp, hread, himports]
      · simp only [fetch, hi, hread', himports]

lemma has_inStep {p i : State} (h : InStep s p i) (q : String) : i.has q = p.has q := by
  rw [State.has, State.has, h.modules]

/-- A step of the probing walk is matched by one of the indexing walk. -/
theorem inStep_of_move (hsrc : Showing s src) {p i p' : State} (h : InStep s p i)
    (hm : Move src v p p') : ∃ i', Move s.source v i i' ∧ InStep s p' i' := by
  cases hm with
  | leave rest hp =>
    exact ⟨_, .leave rest (h.pending.trans hp), rfl, h.modules, h.report, h.resolver⟩
  | skip name names rest hp hk =>
    refine ⟨_, .skip name names rest (h.pending.trans hp) ?_, rfl, h.modules, h.report, h.resolver⟩
    rwa [has_inStep h]
  | load name names rest m resolver trace hp hr hn hf =>
    rcases fetch_matching (v := v) hsrc h.resolver name (v.qualifiedName name) with
      ⟨m', path, tp, ti, i', hfp, hfi, hpath, hmatch⟩ | ⟨e, tp, ti, i', hfp, -, -⟩
    · cases hf.symm.trans hfp
      refine ⟨_, .load name names rest _ i' ti (h.pending.trans hp) hr ?_ hfi, rfl, ?_, ?_, hmatch⟩
      · rwa [has_inStep h]
      · simp only [State.enter, h.modules]
      · exact List.rel_append h.report (.cons hpath .nil)
    · cases hf.symm.trans hfp

lemma agree_of_stop (hsrc : Showing s src) {p i : State} {o : WalkOutcome} (h : InStep s p i)
    (hs : Stop src v p o) :
    ∃ o', Stop s.source v i o' ∧ Agree (ShownAs s) o.answer o'.answer := by
  cases hs with
  | finished hp => exact ⟨_, .finished (h.pending.trans hp), .ok h.modules h.report⟩
  | failed name names rest e resolver trace hp hr hn hf =>
    rcases fetch_matching (v := v) hsrc h.resolver name (v.qualifiedName name) with
      ⟨m, path, tp, ti, i', hfp, -, -, -⟩ | ⟨e', tp, ti, i', hfp, hfi, hagree⟩
    · cases hf.symm.trans hfp
    · cases hf.symm.trans hfp
      refine ⟨_, .failed name names rest e i' ti (h.pending.trans hp) hr ?_ hfi, hagree _⟩
      rwa [has_inStep h]

/-- Walks that are in step end alike, after equally many steps. -/
theorem agree_of_runs (hsrc : Showing s src) {n : Nat} {p i : State} {o : WalkOutcome}
    (h : InStep s p i) (hr : Runs src v n p o) :
    ∃ o', Runs s.source v n i o' ∧ Agree (ShownAs s) o.answer o'.answer := by
  induction hr generalizing i with
  | stop hs =>
    obtain ⟨o', hs', ho⟩ := agree_of_stop hsrc h hs
    exact ⟨o', .stop hs', ho⟩
  | move hm _ ih =>
    obtain ⟨i', hm', h'⟩ := inStep_of_move hsrc h hm
    obtain ⟨o', hr', ho⟩ := ih h'
    exact ⟨o', .move hm' hr', ho⟩

lemma inStep_start (s : Store) (searchPath : SearchPath) (names : List String)
    (hext : PlainExtension v.artifactExtension) :
    InStep s (start v .probe searchPath names) (start v .index searchPath names) where
  pending := rfl
  modules := rfl
  report := .nil
  resolver :=
    { probe := rfl, index := rfl, searchPath := rfl, extension := rfl, plain := hext
      faithful := fun _ _ hl => nomatch hl }

/-- An indexing walk ends like a probing one over a source that shows the store. -/
theorem index_walk_follows (hsrc : Showing s src) (searchPath : SearchPath) (root : Bytes)
    (hext : PlainExtension v.artifactExtension) :
    Agree (ShownAs s) (walk src v .probe searchPath root).answer
      (walk s.source v .index searchPath root).answer := by
  cases hroot : v.imports root with
  | error e =>
    rw [walk_of_malformed hroot, walk_of_malformed hroot]
    exact .malformed rootName e
  | ok names =>
    obtain ⟨n, hp⟩ := exists_runs_walk src .probe searchPath hroot
    obtain ⟨k, hi⟩ := exists_runs_walk s.source .index searchPath hroot
    obtain ⟨o, ho, hagree⟩ := agree_of_runs hsrc (inStep_start s searchPath names hext) hp
    rw [runs_unique hi ho]
    exact hagree

/-- A store whose files have texts for names shows itself. -/
theorem showing_source (hnames : TextNames s) : Showing s s.source where
  isFile p hp := by
    obtain ⟨leaf, hleaf⟩ := hp
    rw [shownFile?_eq_find? hnames hleaf]
    rfl
  read p f hp hf := by
    obtain ⟨leaf, hleaf⟩ := hp
    rw [shownFile?_eq_find? hnames hleaf] at hf
    exact read_of_find? hf

/-- The source in which a probe finds what an index of the store has. -/
def shownSource (s : Store) : FileSource where
  isFile p := (shownFile? s p).isSome
  read p := match shownFile? s p with
    | some f => .ok f.bytes
    | none => .error (.notFound p)
  artifacts dir extension := .ok (s.artifacts dir extension)
  contents := s.files.map (·.bytes)
  mem_contents p b h := by
    split at h
    · rename_i f hf
      cases h
      exact List.mem_map_of_mem (mem_of_shownFile? hf)
    · cases h

lemma showing_shownSource (s : Store) : Showing s (shownSource s) where
  isFile _ _ := rfl
  read _ _ _ hf := by simp only [shownSource, hf]

lemma equiv_of_shownAs (hnames : TextNames s) {p i : Path} (h : ShownAs s p i) : p ≈ i := by
  obtain ⟨⟨leaf, hleaf⟩, hstored⟩ := h
  obtain ⟨f, hf, rfl⟩ := Option.map_eq_some_iff.1 hstored
  rw [shownFile?_eq_find? hnames hleaf] at hf
  exact Eq.symm (find?_eq_some_iff.1 hf).2

/-- Under both strategies a walk over a store whose files have texts for names loads the same
modules in the same order, from equivalent paths, or fails with the same error. -/
theorem index_walk_agrees (s : Store) (hnames : TextNames s) (v : Conventions)
    (searchPath : SearchPath) (root : Bytes) (hext : PlainExtension v.artifactExtension) :
    Agree (· ≈ ·) (walk s.source v .probe searchPath root).answer
      (walk s.source v .index searchPath root).answer := by
  have hagree := index_walk_follows (showing_source hnames) searchPath root hext
  generalize (walk s.source v .probe searchPath root).answer = p at hagree ⊢
  generalize (walk s.source v .index searchPath root).answer = i at hagree ⊢
  cases hagree with
  | ok hmodules hreport =>
    exact .ok hmodules (hreport.imp fun _ _ h => equiv_of_shownAs hnames h)
  | unresolved name => exact .unresolved name
  | malformed name fault => exact .malformed name fault

theorem index_walk_agrees_self_import :
    TextNames selfImporting ∧ PlainExtension unmarked.artifactExtension ∧
      ∃ i, (walk selfImporting.source unmarked .index sourceThenLib importingA).answer = .ok i ∧
        ("GRAIN$MODULE$a", importingA) ∈ i.modules := by
  have hext : PlainExtension unmarked.artifactExtension := ⟨by decide, by decide, by decide⟩
  have hnames : TextNames selfImporting := by decide
  refine ⟨hnames, hext, ?_⟩
  have hagree := index_walk_agrees selfImporting hnames unmarked sourceThenLib importingA hext
  rcases probe_walk_cases selfImporting.source unmarked sourceThenLib importingA with
    ⟨e, he, -⟩ | ⟨name, e, trace, hreach, hnot, -⟩ | ⟨t, names, ht, hp, -, hw⟩
  · cases imports_importingA.symm.trans he
  · exact absurd (loadable_selfImporting hreach) hnot
  · obtain ⟨b, hb, hm, -⟩ := loaded_of_reach injective_unmarked ht hp
      (.root (mem_needs_importingA.2 rfl))
    cases artifact_selfImporting.symm.trans hb
    rw [hw] at hagree
    generalize (walk selfImporting.source unmarked .index sourceThenLib importingA).answer = o
      at hagree
    cases hagree with
    | ok hmodules _ => exact ⟨_, rfl, hmodules ▸ hm⟩

/-- A path whose file name is no text and is shown as U+FFFD with the extension. -/
def garbledPath : Path := ⟨Bytes.utf8 "/lib/" ++ 0xff :: Bytes.utf8 ".gr.wasm"⟩

def garbledStored : Store := .ofList [(garbledPath, binary [])]

/-- A binary that imports the name by the text it is shown as. -/
def importingShown : Bytes := binary [.imports [⟨"\uFFFD", "f", .function 0⟩]]

lemma imports_importingShown : ({} : Conventions).imports importingShown = .ok ["\uFFFD"] :=
  (imports_binary {} (by decide)).trans (congrArg Except.ok (by decide))

lemma walk_garbled_probe :
    (walk garbledStored.source {} .probe (.ofList ["/lib"]) importingShown).answer =
      .error (.unresolved "\uFFFD") :=
  congrArg WalkOutcome.answer (walk_eq_of_runs imports_importingShown
    (.stop (.failed "\uFFFD" [] [] (.unresolved "\uFFFD") _ _ rfl (by decide) (by decide) rfl)))

lemma walk_garbled_index :
    (walk garbledStored.source {} .index (.ofList ["/lib"]) importingShown).answer =
      .ok ⟨[("GRAIN$MODULE$\uFFFD", binary [])], [garbledPath]⟩ :=
  congrArg WalkOutcome.answer (walk_eq_of_runs imports_importingShown
    (.move (.load "\uFFFD" [] [] ⟨garbledPath, binary [], []⟩ _ _ rfl (by decide) (by decide)
      (fetch_eq_ok_iff.2 ⟨by decide, by decide, imports_nothing _, rfl, rfl⟩))
    (.move (.leave [[]] rfl) (.move (.leave [] rfl) (.stop (.finished rfl))))))

/-- An index has a file whose name is no text under what the name is shown as, where no probe finds
it. -/
theorem index_finds_shown_name :
    PlainExtension ({} : Conventions).artifactExtension ∧
    ¬Agree (· ≈ ·) (walk garbledStored.source {} .probe (.ofList ["/lib"]) importingShown).answer
      (walk garbledStored.source {} .index (.ofList ["/lib"]) importingShown).answer := by
  refine ⟨⟨by decide, by decide, by decide⟩, ?_⟩
  rw [walk_garbled_probe, walk_garbled_index]
  rintro ⟨⟩

end WasmBundle.Proofs
