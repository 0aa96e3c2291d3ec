import WasmBundle.Bundling
import WasmBundle.Proofs.BundleRoots
import WasmBundle.Proofs.ImportSections
import WasmBundle.Proofs.StrategyAgreement

/-!
# The order of discovery

The order in which a root imports its names decides which module is loaded first and as whose
import, but not what is loaded in the end: that is what the names reach, and each name is found in
one place. So roots that import the same names are walked with the same success, load the same
modules from the same artifacts, and are bundled with the same table.
-/

namespace WasmBundle.Proofs
open Walk

section Modules

variable {src : FileSource} {v : Conventions} {strategy : ResolveStrategy}
  {searchPath : SearchPath} {root root' : Bytes}

lemma reach_of_needs (h : ∀ name, name ∈ needs v root → name ∈ needs v root') {name : String}
    (hr : Reach src v searchPath root name) : Reach src v searchPath root' name := by
  induction hr with
  | root hn => exact .root (h _ hn)
  | dependency _ hb hn ih => exact .dependency ih hb hn

lemma keys_nodup_of_walk {r : Resolution}
    (hok : (walk src v strategy searchPath root).answer = .ok r) :
    (r.modules.map Prod.fst).Nodup := by
  have hstep : ∀ s t : State, (s.loaded.modules.map Prod.fst).Nodup → Move src v s t →
      (t.loaded.modules.map Prod.fst).Nodup := fun _ _ hs hm => nodup_of_move hm hs
  obtain ⟨s, hs, -, rfl, -⟩ := exists_finished hstep (fun _ _ => List.nodup_nil) hok
  exact hs

lemma mem_modules_iff (hinj : Function.Injective v.qualifiedName) {s : State}
    (hs : Covering src v searchPath root s) (hp : s.pending = []) {q : String} {b : Bytes} :
    (q, b) ∈ s.loaded.modules ↔ ∃ name, Reach src v searchPath root name ∧
      v.qualifiedName name = q ∧ artifact? src v searchPath name = some b := by
  constructor
  · intro hm
    obtain ⟨name, hreach, hq, hart, -⟩ := hs.loaded_reach q b hm
    exact ⟨name, hreach, hq, hart⟩
  · rintro ⟨name, hreach, rfl, hart⟩
    obtain ⟨b', hart', hm, -⟩ := loaded_of_reach hinj hs hp hreach
    cases hart.symm.trans hart'
    exact hm

/-- A probing walk that succeeds over a root succeeds over every root that needs the same names, and
loads the same modules. -/
theorem probe_walk_of_needs (hinj : Function.Injective v.qualifiedName) {names' : List String}
    (hroot' : v.imports root' = .ok names')
    (hneeds : ∀ name, name ∈ needs v root ↔ name ∈ needs v root') {r : Resolution}
    (hok : (walk src v .probe searchPath root).answer = .ok r) :
    ∃ r', (walk src v .probe searchPath root').answer = .ok r' ∧ r'.modules.Perm r.modules := by
  have hreach : ∀ name, Reach src v searchPath root' name ↔ Reach src v searchPath root name :=
    fun name => ⟨reach_of_needs fun n => (hneeds n).2, reach_of_needs fun n => (hneeds n).1⟩
  obtain ⟨s, hs, hp, rfl, -⟩ :=
    exists_finished (fun _ _ => covering_of_move) (fun _ => covering_start) hok
  rcases probe_walk_cases src v searchPath root' with
    ⟨e, he, -⟩ | ⟨name, e, trace, hname, hnot, -⟩ | ⟨s', names'', hs', hp', -, hw'⟩
  · cases hroot'.symm.trans he
  · -- The name was reached from the first root too, and there it was loaded.
    obtain ⟨b, hart, -, imports, hscan⟩ := loaded_of_reach hinj hs hp ((hreach name).1 hname)
    exact absurd ⟨b, imports, hart, hscan⟩ hnot
  · refine ⟨s'.loaded, by rw [hw'], ?_⟩
    refine (List.perm_ext_iff_of_nodup hs'.keys_nodup.of_map hs.keys_nodup.of_map).2 ?_
    rintro ⟨q, b⟩
    simp only [mem_modules_iff hinj hs' hp', mem_modules_iff hinj hs hp, hreach]

end Modules

variable {v : Conventions} {strategy : ResolveStrategy} {searchPath : SearchPath}

/-- An indexing walk loads the modules of a probing one over a source that shows the store, and
fails as that does. -/
lemma map_modules_walk {s : Store} {src : FileSource} (hsrc : Showing s src)
    (searchPath : SearchPath) (root : Bytes) (hext : PlainExtension v.artifactExtension) :
    (walk s.source v .index searchPath root).answer.map Resolution.modules =
      (walk src v .probe searchPath root).answer.map Resolution.modules := by
  have hagree := index_walk_follows hsrc searchPath root hext
  generalize (walk src v .probe searchPath root).answer = p at hagree ⊢
  generalize (walk s.source v .index searchPath root).answer = i at hagree ⊢
  cases hagree with
  | ok hmodules _ => exact congrArg Except.ok hmodules
  | unresolved => rfl
  | malformed => rfl

lemma map_eq_ok_iff {ε α β : Type} {f : α → β} {x : Except ε α} {b : β} :
    x.map f = .ok b ↔ ∃ a, x = .ok a ∧ f a = b := by
  cases x with
  | error e => simp [Except.map]
  | ok a => simp [Except.map]

/-- A walk that succeeds over a root succeeds over every root that needs the same names, and loads
the same modules. -/
theorem walk_of_needs (s : Store) (hinj : Function.Injective v.qualifiedName)
    (hext : strategy = .index → PlainExtension v.artifactExtension) {root root' : Bytes}
    {names' : List String} (hroot' : v.imports root' = .ok names')
    (hneeds : ∀ name, name ∈ needs v root ↔ name ∈ needs v root') {r : Resolution}
    (hok : (walk s.source v strategy searchPath root).answer = .ok r) :
    ∃ r', (walk s.source v strategy searchPath root').answer = .ok r' ∧
      r'.modules.Perm r.modules := by
  cases strategy with
  | probe => exact probe_walk_of_needs hinj hroot' hneeds hok
  | index =>
    -- An indexing walk loads what a probing one does over the source that shows the store.
    have hmap := fun root =>
      map_modules_walk (showing_shownSource s) searchPath root (hext rfl)
    have hmodules := hmap root
    rw [hok] at hmodules
    obtain ⟨p, hprobe, hp⟩ := map_eq_ok_iff.1 hmodules.symm
    obtain ⟨p', hprobe', hperm⟩ := probe_walk_of_needs hinj hroot' hneeds hprobe
    have hmodules' := hmap root'
    rw [hprobe'] at hmodules'
    obtain ⟨r', hok', hr'⟩ := map_eq_ok_iff.1 hmodules'
    exact ⟨r', hok', by rwa [hr', ← hp]⟩

section Artifacts

variable (s : Store) (v : Conventions) (strategy : ResolveStrategy) (searchPath : SearchPath)

/-- Where a walk over a store finds an import name. -/
def located (name : String) : Option Path :=
  match strategy with
  | .probe => (candidates searchPath v.artifactExtension name).find? s.source.isFile
  | .index => (candidates searchPath v.artifactExtension name).findSome? (stored? s)

/-- What the resolver of a walk satisfies at all times. -/
structure Locating (r : Resolver) : Prop where
  strategy : r.strategy = strategy
  searchPath : r.searchPath = searchPath
  extension : r.extension = v.artifactExtension
  faithful : Faithful s r

/-- The path is where the name of the module is found. -/
def FoundAt (m : String × Bytes) (path : Path) : Prop :=
  ∃ name, v.qualifiedName name = m.1 ∧ located s v strategy searchPath name = some path

/-- The report has the modules in line with the paths where their names are found. -/
structure Reporting (t : State) : Prop where
  resolver : Locating s v strategy searchPath t.resolver
  report : List.Forall₂ (FoundAt s v strategy searchPath) t.loaded.modules t.loaded.report

end Artifacts

variable {s : Store}

/-- Where a name is found does not depend on what has been found before. -/
theorem resolve_locating (hext : strategy = .index → PlainExtension v.artifactExtension)
    {r : Resolver} (h : Locating s v strategy searchPath r) (name : String) :
    (r.resolve s.source name).answer = .ok (located s v strategy searchPath name) ∧
      Locating s v strategy searchPath (r.resolve s.source name).resolver := by
  obtain ⟨hr, rfl, hrext, hkept⟩ := h
  cases strategy with
  | probe =>
    rw [resolve_probe s.source hr, hrext]
    exact ⟨rfl, hr, rfl, hrext, hkept⟩
  | index =>
    obtain ⟨index, trace, hresolve, hkept'⟩ := resolve_index hr (hrext ▸ hext rfl) hkept name
    rw [hresolve]
    refine ⟨?_, hr, rfl, hrext, hkept'⟩
    rw [hrext]
    rfl

lemma reporting_of_move (hext : strategy = .index → PlainExtension v.artifactExtension)
    {t u : State} (ht : Reporting s v strategy searchPath t) (h : Move s.source v t u) :
    Reporting s v strategy searchPath u := by
  obtain ⟨hr, hfound⟩ := ht
  cases h with
  | leave => exact ⟨hr, hfound⟩
  | skip => exact ⟨hr, hfound⟩
  | load name names rest m resolver trace hp hrun hn hf =>
    obtain ⟨hpath, -, -, rfl, -⟩ := fetch_eq_ok_iff.1 hf
    obtain ⟨hanswer, hr'⟩ := resolve_locating hext hr name
    have hlocated : located s v strategy searchPath name = some m.path :=
      Except.ok.inj (hanswer.symm.trans hpath)
    exact ⟨hr', List.rel_append hfound (.cons ⟨name, rfl, hlocated⟩ .nil)⟩

/-- Each module of a walk is reported at the path where its name is found. -/
theorem foundAt_of_walk (hext : strategy = .index → PlainExtension v.artifactExtension)
    {root : Bytes} {r : Resolution}
    (hok : (walk s.source v strategy searchPath root).answer = .ok r) :
    List.Forall₂ (FoundAt s v strategy searchPath) r.modules r.report := by
  have hstart : ∀ names, Reporting s v strategy searchPath (start v strategy searchPath names) :=
    fun _ => ⟨⟨rfl, rfl, rfl, fun _ _ hl => nomatch hl⟩, .nil⟩
  obtain ⟨t, ht, -, rfl, -⟩ :=
    exists_finished (fun _ _ => reporting_of_move hext) (fun names _ => hstart names) hok
  exact ht.report

lemma rightUnique_foundAt (hinj : Function.Injective v.qualifiedName) :
    Relator.RightUnique (FoundAt s v strategy searchPath) := by
  rintro m path path' ⟨name, hname, hpath⟩ ⟨name', hname', hpath'⟩
  cases hinj (hname.trans hname'.symm)
  exact Option.some.inj (hpath.symm.trans hpath')

lemma lookup_eq_some_iff_mem {l : List (String × Bytes)} (hd : (l.map Prod.fst).Nodup) {q : String}
    {b : Bytes} : l.lookup q = some b ↔ (q, b) ∈ l := by
  refine ⟨fun h => ?_, lookup_of_mem hd⟩
  obtain ⟨l₁, l₂, rfl, -⟩ := List.lookup_eq_some_iff.1 h
  exact List.mem_append_right _ List.mem_cons_self

lemma lookup_eq_of_perm {l l' : List (String × Bytes)} (hd : (l.map Prod.fst).Nodup)
    (hp : l'.Perm l) (q : String) : l'.lookup q = l.lookup q := by
  have hd' : (l'.map Prod.fst).Nodup := (hp.map Prod.fst).nodup_iff.2 hd
  refine Option.ext fun b => ?_
  rw [lookup_eq_some_iff_mem hd', lookup_eq_some_iff_mem hd, hp.mem_iff]

/-- The same modules are loaded from the same artifacts, in whatever order. -/
structure SameLoaded (r r' : Resolution) : Prop where
  lookup : ∀ q, r'.modules.lookup q = r.modules.lookup q
  modules : r'.modules.Perm r.modules
  report : r'.report.Perm r.report

lemma bundle_of_walk {src : FileSource} {root : Bytes} {r : Resolution}
    (hok : (walk src v strategy searchPath root).answer = .ok r) (shim : String) :
    (bundle src v strategy searchPath shim root).answer =
      .ok (⟨shim, .ofList r.modules, root⟩, r.report) := by
  simp only [bundle, hok]
  rfl

/-- Roots that import the same names, in whatever order, are walked with the same success. What is
loaded is the same up to its order, so that the bundles have the same table. -/
theorem walk_of_same_imports (s : Store) (v : Conventions) (strategy : ResolveStrategy)
    (searchPath : SearchPath) (root root' : Bytes) (names names' : List String)
    (hinj : Function.Injective v.qualifiedName)
    (hext : strategy = .index → PlainExtension v.artifactExtension)
    (hroot : v.imports root = .ok names) (hroot' : v.imports root' = .ok names')
    (hsame : ∀ name, name ∈ names ↔ name ∈ names') :
    ((∃ r, (walk s.source v strategy searchPath root).answer = .ok r) ↔
      ∃ r', (walk s.source v strategy searchPath root').answer = .ok r') ∧
    ∀ r r', (walk s.source v strategy searchPath root).answer = .ok r →
      (walk s.source v strategy searchPath root').answer = .ok r' →
      SameLoaded r r' ∧ ∀ shim, ∃ t,
        (bundle s.source v strategy searchPath shim root).answer =
          .ok (⟨shim, t, root⟩, r.report) ∧
        (bundle s.source v strategy searchPath shim root').answer =
          .ok (⟨shim, t, root'⟩, r'.report) ∧
        SameTable ⟨shim, t, root⟩ ⟨shim, t, root'⟩ := by
  have hneeds : ∀ name, name ∈ needs v root ↔ name ∈ needs v root' := fun name => by
    rw [mem_needs hroot, mem_needs hroot', hsame]
  refine ⟨⟨?_, ?_⟩, fun r r' hok hok' => ?_⟩
  · rintro ⟨r, hok⟩
    obtain ⟨r', hok', -⟩ := walk_of_needs s hinj hext hroot' hneeds hok
    exact ⟨r', hok'⟩
  · rintro ⟨r', hok'⟩
    obtain ⟨r, hok, -⟩ := walk_of_needs s hinj hext hroot (fun n => (hneeds n).symm) hok'
    exact ⟨r, hok⟩
  · obtain ⟨p, hp, hperm⟩ := walk_of_needs s hinj hext hroot' hneeds hok
    cases hok'.symm.trans hp
    have hnodup := keys_nodup_of_walk hok
    -- A module settles the path it is reported at, so the reports are in line with the modules.
    have hreport : r'.report.Perm r.report := List.rel_perm_imp (rightUnique_foundAt hinj)
      (foundAt_of_walk hext hok') (foundAt_of_walk hext hok) hperm
    refine ⟨⟨lookup_eq_of_perm hnodup hperm, hperm, hreport⟩, fun shim => ?_⟩
    refine ⟨.ofList r.modules, bundle_of_walk hok shim, ?_, sameTable_of_roots ..⟩
    rw [bundle_of_walk hok', ofList_eq_of_perm hnodup hperm]

/-- Sections that import `b`. -/
def sectionsB : List BinarySection := [.imports [⟨"b", "f", .function 0⟩]]

/-- Sections that import `a` before `b`. -/
def sectionsAB : List BinarySection :=
  [.imports [⟨"a", "f", .function 0⟩, ⟨"b", "f", .function 0⟩]]

/-- Sections that import `b` before `a`, once with the prefix and once without it. -/
def sectionsBA : List BinarySection :=
  [.imports [⟨"GRAIN$MODULE$b", "f", .function 0⟩], .imports [⟨"a", "f", .function 0⟩,
    ⟨"b", "g", .function 0⟩]]

/-- A store in which `a` imports `b`. -/
def chained : Store := Store.ofList
  [("lib/a.gr.wasm", binary sectionsB), ("lib/b.gr.wasm", binary [])]

/-- What is loaded from the store when `a` comes first. -/
def chainedLoaded : Resolution :=
  ⟨[("GRAIN$MODULE$a", binary sectionsB), ("GRAIN$MODULE$b", binary [])],
    ["lib/a.gr.wasm", "lib/b.gr.wasm"]⟩

lemma imports_sectionsB : unmarked.imports (binary sectionsB) = .ok ["b"] :=
  (imports_binary unmarked (by decide)).trans (congrArg Except.ok (by decide))

lemma imports_sectionsAB : unmarked.imports (binary sectionsAB) = .ok ["a", "b"] :=
  (imports_binary unmarked (by decide)).trans (congrArg Except.ok (by decide))

lemma imports_sectionsBA : unmarked.imports (binary sectionsBA) = .ok ["b", "a"] :=
  (imports_binary unmarked (by decide)).trans (congrArg Except.ok (by decide))

lemma walk_chained :
    (walk chained.source unmarked .index sourceThenLib (binary sectionsAB)).answer =
      .ok chainedLoaded := by
  refine congrArg WalkOutcome.answer (walk_eq_of_runs imports_sectionsAB
    (.move (.load "a" ["b"] [] ⟨"lib/a.gr.wasm", binary sectionsB, ["b"]⟩ _ _ rfl (by decide)
      (by decide) (fetch_eq_ok_iff.2 ⟨by decide, by decide, imports_sectionsB, rfl, rfl⟩))
    (.move (.load "b" [] [["b"]] ⟨"lib/b.gr.wasm", binary [], []⟩ _ _ rfl (by decide)
      (by decide) (fetch_eq_ok_iff.2 ⟨by decide, by decide, imports_nothing _, rfl, rfl⟩))
    (.move (.leave [[], ["b"]] rfl) (.move (.leave [["b"]] rfl)
    (.move (.skip "b" [] [] rfl (.inr (by decide)))
    (.move (.leave [] rfl) (.stop (.finished rfl)))))))))

/-- A root that imports `b` first, and a second time behind `a`, is walked as one that imports `a`
first. -/
theorem walk_of_same_imports_swapped :
    Function.Injective unmarked.qualifiedName ∧ PlainExtension unmarked.artifactExtension ∧
    ∃ r', (walk chained.source unmarked .index sourceThenLib (binary sectionsBA)).answer = .ok r' ∧
      r'.modules.lookup "GRAIN$MODULE$a" = some (binary sectionsB) ∧
      r'.report.Perm ["lib/a.gr.wasm", "lib/b.gr.wasm"] := by
  have hext : PlainExtension unmarked.artifactExtension := ⟨by decide, by decide, by decide⟩
  obtain ⟨hiff, hall⟩ := walk_of_same_imports chained unmarked .index sourceThenLib
    (binary sectionsAB) (binary sectionsBA) ["a", "b"] ["b", "a"] injective_unmarked
    (fun _ => hext) imports_sectionsAB imports_sectionsBA (fun name => by simp [or_comm])
  obtain ⟨r', hr'⟩ := hiff.1 ⟨_, walk_chained⟩
  obtain ⟨hloaded, -⟩ := hall _ r' walk_chained hr'
  exact ⟨injective_unmarked, hext, r', hr', hloaded.lookup _, hloaded.report⟩

end WasmBundle.Proofs
