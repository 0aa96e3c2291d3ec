import WasmBundle.Proofs.DiscoveryOrder
import WasmBundle.Proofs.DistinctRoots
import WasmBundle.Proofs.NameCollisions

/-!
# Artifacts loaded twice

What is loaded is known by its qualified name, whatever file it comes from. Names that denote one
file are therefore each loaded from it: different spellings of a name always, names of which one
ends like the other where one root stands in another one. No other names share a file. Where none
do, a walk reads every file at most once.
-/

namespace WasmBundle.Proofs
open Walk WasmBundle.Path

/-- The components of a path but a leading `.`. -/
def trail (p : Path) : List Component := p.components.filter (· ≠ .current)

/-- The path of an artifact in the root that has it. -/
def artifactPath (v : Conventions) (name : String) : Path :=
  .ofText (name ++ "." ++ v.artifactExtension)

variable {p q dir : Path}

lemma trail_congr (h : p ≈ q) : trail p = trail q := by
  have hcomponents : p.components = q.components := h
  rw [trail, trail, hcomponents]

lemma trail_suffix_join (dir p : Path) : trail p <:+ trail (dir.join p) := by
  unfold trail
  rw [components_join, joined]
  split
  · exact List.suffix_rfl
  · split
    · exact List.suffix_rfl
    · rw [List.filter_append, List.filter_filter]
      simp only [Bool.and_self]
      exact List.suffix_append _ _

lemma components_eq_nil_or_cons (p : Path) :
    p.components = [] ∨ ∃ c parts, p.components = c :: laterComponents parts := by
  obtain ⟨s, t, hst⟩ := exists_splitAtSeparator_eq_cons separator p.bytes
  rw [components_eq, hst]
  by_cases hs : s = []
  · by_cases ht : t = []
    · exact .inl (by simp [partComponents, hs, ht, laterComponents])
    · exact .inr ⟨_, t, partComponents_eq_cons ht⟩
  · exact .inr ⟨_, t, partComponents_cons hs t⟩

lemma trail_of_absolute (h : p.components.head? = some .root) : trail p = p.components := by
  rcases components_eq_nil_or_cons p with hp | ⟨c, parts, hp⟩
  · rw [trail, hp, List.filter_nil]
  · rw [hp, List.head?_cons, Option.some.injEq] at h
    rw [trail, hp, h, List.filter_cons_of_pos (by decide), filter_laterComponents]

lemma head?_trail_eq_root_iff (p : Path) :
    (trail p).head? = some .root ↔ p.components.head? = some .root := by
  refine ⟨fun h => ?_, fun h => by rw [trail_of_absolute h, h]⟩
  rcases components_eq_nil_or_cons p with hp | ⟨c, parts, hp⟩
  · rw [trail, hp] at h
    cases h
  · by_cases hc : c = .current
    · rw [trail, hp, hc, List.filter_cons_of_neg (by decide), filter_laterComponents] at h
      exact absurd (List.mem_of_mem_head? h) (root_not_mem_laterComponents parts)
    · rw [trail, hp, List.filter_cons_of_pos (by simpa using hc), List.head?_cons] at h
      rw [hp, List.head?_cons, h]

lemma join_congr_trail (hdir : dir.isEmpty = false) (h : trail p = trail q) :
    dir.join p ≈ dir.join q := by
  have hne : dir.components ≠ [] := by
    rw [Ne, components_eq_nil_iff, hdir]
    decide
  have hroot : p.components.head? = some .root ↔ q.components.head? = some .root := by
    rw [← head?_trail_eq_root_iff, h, head?_trail_eq_root_iff]
  change (dir.join p).components = (dir.join q).components
  rw [components_join, components_join, joined, joined]
  by_cases hp : p.components.head? = some .root
  · rw [if_pos hp, if_pos (hroot.1 hp), ← trail_of_absolute hp, h, trail_of_absolute (hroot.1 hp)]
  · rw [if_neg hp, if_neg (mt hroot.2 hp), if_neg hne, if_neg hne]
    exact congrArg (dir.components ++ ·) h

section Files

variable (s : Store) (v : Conventions) (searchPath : SearchPath) (root : Bytes)

/-- The artifact of the name in some root is the file of the path. -/
def Denotes (name : String) (path : Path) : Prop :=
  ∃ dir ∈ searchPath.roots, candidate v.artifactExtension name dir ≈ path

instance (name : String) (path : Path) : Decidable (Denotes v searchPath name path) :=
  inferInstanceAs (Decidable (∃ dir ∈ searchPath.roots, _ ≈ path))

/-- No file is denoted by two of the names that are reached. -/
def Unshared : Prop :=
  ∀ m n, Reach s.source v searchPath root m → Reach s.source v searchPath root n →
    ∀ f ∈ s.files, Denotes v searchPath m f.path → Denotes v searchPath n f.path → m = n

end Files

variable {s : Store} {v : Conventions} {strategy : ResolveStrategy} {searchPath : SearchPath}
  {root : Bytes} {r : Resolution} {m n name : String}

lemma trail_suffix_of_denotes (h : Denotes v searchPath name p) :
    trail (artifactPath v name) <:+ trail p := by
  obtain ⟨dir, -, hdir⟩ := h
  rw [← trail_congr hdir]
  exact trail_suffix_join dir _

/-- The modules of a walk have been loaded for the names, one after another. -/
structure LoadedFor (s : Store) (v : Conventions) (strategy : ResolveStrategy)
    (searchPath : SearchPath) (root : Bytes) (r : Resolution) (names : List String) : Prop where
  nodup : names.Nodup
  reach : ∀ name ∈ names, Reach s.source v searchPath root name
  modules : r.modules.map Prod.fst = names.map v.qualifiedName
  report : r.report.map some = names.map (located s v strategy searchPath)

lemma LoadedFor.length_modules {names : List String}
    (h : LoadedFor s v strategy searchPath root r names) :
    r.modules.length = r.report.length := by
  have hmodules := congrArg List.length h.modules
  have hreport := congrArg List.length h.report
  simp only [List.length_map] at hmodules hreport
  rw [hmodules, hreport]

lemma exists_names_of_foundAt {modules : List (String × Bytes)} {report : List Path}
    (h : List.Forall₂ (FoundAt s v strategy searchPath) modules report) :
    ∃ names : List String, modules.map Prod.fst = names.map v.qualifiedName ∧
      report.map some = names.map (located s v strategy searchPath) := by
  induction h with
  | nil => exact ⟨[], rfl, rfl⟩
  | cons hfound _ ih =>
    obtain ⟨name, hname, hlocated⟩ := hfound
    obtain ⟨names, hmodules, hreport⟩ := ih
    refine ⟨name :: names, ?_, ?_⟩
    · rw [List.map_cons, List.map_cons, hmodules, hname]
    · rw [List.map_cons, List.map_cons, hreport, hlocated]

section Found

variable (hext : strategy = .index → PlainExtension v.artifactExtension)
  (hnames : strategy = .index → TextNames s)
include hext hnames

lemma exists_root_of_located (h : located s v strategy searchPath name = some p) :
    ∃ dir,
      searchPath.roots.find? (s.source.isFile ∘ candidate v.artifactExtension name) = some dir ∧
      p ≈ candidate v.artifactExtension name dir := by
  have hfind : (candidates searchPath v.artifactExtension name).find? s.source.isFile =
      (searchPath.roots.find? (s.source.isFile ∘ candidate v.artifactExtension name)).map
        (candidate v.artifactExtension name) := List.find?_map
  cases strategy with
  | probe =>
    obtain ⟨dir, hdir, rfl⟩ := Option.map_eq_some_iff.1 (hfind.symm.trans h)
    exact ⟨dir, hdir, rfl⟩
  | index =>
    have hends : ∀ q ∈ candidates searchPath v.artifactExtension name, EndsInText q :=
      fun _ => endsInText_of_mem_candidates (hext rfl)
    have hsame := findSome?_stored? (showing_source (hnames rfl)) hends
    obtain ⟨found, hfound, hstored⟩ := Option.bind_eq_some_iff.1 (hsame.symm.trans h)
    obtain ⟨dir, hdir, rfl⟩ := Option.map_eq_some_iff.1 (hfind.symm.trans hfound)
    have hshown : ShownAs s (candidate v.artifactExtension name dir) p :=
      ⟨hends _ (List.mem_of_find?_eq_some hfound), hstored⟩
    exact ⟨dir, hdir, Eq.symm (equiv_of_shownAs (hnames rfl) hshown)⟩

lemma exists_file_of_located (h : located s v strategy searchPath name = some p) :
    ∃ f ∈ s.files, f.path ≈ p ∧ Denotes v searchPath name f.path := by
  obtain ⟨dir, hdir, hp⟩ := exists_root_of_located hext hnames h
  have hfile : (s.source.isFile ∘ candidate v.artifactExtension name) dir = true :=
    List.find?_some hdir
  obtain ⟨f, hf⟩ := Option.isSome_iff_exists.1 hfile
  obtain ⟨hmem, hpath⟩ := find?_eq_some_iff.1 hf
  exact ⟨f, hmem, hpath.trans hp.symm, dir, List.mem_of_find?_eq_some hdir, hpath.symm⟩

lemma exists_file_of_both_located (hm : located s v strategy searchPath m = some p)
    (hn : located s v strategy searchPath n = some q) (hpq : p ≈ q) :
    ∃ f ∈ s.files, f.path ≈ p ∧ Denotes v searchPath m f.path ∧ Denotes v searchPath n f.path := by
  obtain ⟨f, hf, hfp, hfm⟩ := exists_file_of_located hext hnames hm
  obtain ⟨g, hg, hgq, hgn⟩ := exists_file_of_located hext hnames hn
  cases eq_of_equiv hf hg (hfp.trans (hpq.trans hgq.symm))
  exact ⟨f, hf, hfp, hfm, hgn⟩

/-- Different spellings of a name are found at one file. -/
theorem equiv_of_same_trail (htrail : trail (artifactPath v m) = trail (artifactPath v n))
    (hm : located s v strategy searchPath m = some p)
    (hn : located s v strategy searchPath n = some q) : p ≈ q := by
  obtain ⟨dir, hdir, hp⟩ := exists_root_of_located hext hnames hm
  obtain ⟨dir', hdir', hq⟩ := exists_root_of_located hext hnames hn
  -- Below every root the names have the same candidate, so the same root is the first to have it.
  have hsame : searchPath.roots.find? (s.source.isFile ∘ candidate v.artifactExtension m) =
      searchPath.roots.find? (s.source.isFile ∘ candidate v.artifactExtension n) :=
    List.find?_congr fun d hd => isFile_congr (join_congr_trail (searchPath.nonempty d hd) htrail)
  cases hdir.symm.trans (hsame.trans hdir')
  have hmem := List.mem_of_find?_eq_some hdir
  exact hp.trans ((join_congr_trail (searchPath.nonempty dir hmem) htrail).trans hq.symm)

lemma eq_of_located (h : Unshared s v searchPath root) (hm : Reach s.source v searchPath root m)
    (hn : Reach s.source v searchPath root n) (hp : located s v strategy searchPath m = some p)
    (hq : located s v strategy searchPath n = some q) (hpq : p ≈ q) : m = n := by
  obtain ⟨f, hf, -, hfm, hfn⟩ := exists_file_of_both_located hext hnames hp hq hpq
  exact h m n hm hn f hf hfm hfn

/-- A probing walk over the same store loads the same modules. -/
lemma exists_probe_walk
    (hok : (walk s.source v strategy searchPath root).answer = .ok r) :
    ∃ p, (walk s.source v .probe searchPath root).answer = .ok p ∧ p.modules = r.modules := by
  cases strategy with
  | probe => exact ⟨r, hok, rfl⟩
  | index =>
    have hmap := map_modules_walk (showing_source (hnames rfl)) searchPath root (hext rfl)
    rw [hok] at hmap
    exact map_eq_ok_iff.1 hmap.symm

lemma exists_reach_of_mem_modules
    (hok : (walk s.source v strategy searchPath root).answer = .ok r) {e : String × Bytes}
    (he : e ∈ r.modules) :
    ∃ name, Reach s.source v searchPath root name ∧ v.qualifiedName name = e.1 := by
  obtain ⟨p, hprobe, hp⟩ := exists_probe_walk hext hnames hok
  obtain ⟨t, ht, -, rfl, -⟩ :=
    exists_finished (fun _ _ => covering_of_move) (fun _ => covering_start) hprobe
  obtain ⟨name, hreach, hname, -⟩ := ht.loaded_reach e.1 e.2 (hp ▸ he)
  exact ⟨name, hreach, hname⟩

/-- What a walk has loaded it has loaded for different names, and found where these are. -/
theorem exists_loadedFor (hinj : Function.Injective v.qualifiedName)
    (hok : (walk s.source v strategy searchPath root).answer = .ok r) :
    ∃ names, LoadedFor s v strategy searchPath root r names := by
  obtain ⟨names, hmodules, hreport⟩ := exists_names_of_foundAt (foundAt_of_walk hext hok)
  refine ⟨names, ?_, fun name hname => ?_, hmodules, hreport⟩
  · have hkeys := keys_nodup_of_walk hok
    rw [hmodules] at hkeys
    exact hkeys.of_map
  · have hkey : v.qualifiedName name ∈ r.modules.map Prod.fst :=
      hmodules ▸ List.mem_map_of_mem hname
    obtain ⟨e, he, hq⟩ := List.mem_map.1 hkey
    obtain ⟨name', hreach, hname'⟩ := exists_reach_of_mem_modules hext hnames hok he
    exact hinj (hname'.trans hq) ▸ hreach

namespace LoadedFor

variable {names : List String}

lemma exists_file (h : LoadedFor s v strategy searchPath root r names) (hp : p ∈ r.report) :
    ∃ f ∈ s.files, f.path ≈ p := by
  have hmem : some p ∈ names.map (located s v strategy searchPath) :=
    h.report ▸ List.mem_map_of_mem hp
  obtain ⟨name, -, hlocated⟩ := List.mem_map.1 hmem
  obtain ⟨f, hf, hfp, -⟩ := exists_file_of_located hext hnames hlocated
  exact ⟨f, hf, hfp⟩

/-- Where names do not share files, no file is reported twice. -/
theorem pairwise_report (h : LoadedFor s v strategy searchPath root r names)
    (hunshared : Unshared s v searchPath root) : r.report.Pairwise fun p q => ¬p ≈ q := by
  have hapart : names.Pairwise fun m n => ∀ p q, located s v strategy searchPath m = some p →
      located s v strategy searchPath n = some q → ¬p ≈ q :=
    h.nodup.imp_of_mem fun hm hn hne p q hp hq hpq =>
      hne (eq_of_located hext hnames hunshared (h.reach _ hm) (h.reach _ hn) hp hq hpq)
  -- The report has these places, in line with the names.
  have hfound : (names.map (located s v strategy searchPath)).Pairwise fun a b =>
      ∀ p q, a = some p → b = some q → ¬p ≈ q := List.pairwise_map.2 hapart
  rw [← h.report, List.pairwise_map] at hfound
  exact hfound.imp fun hne => hne _ _ rfl rfl

end LoadedFor

end Found

lemma length_le_of_pairwise {report : List Path} (hfiles : ∀ p ∈ report, ∃ f ∈ s.files, f.path ≈ p)
    (hpairwise : report.Pairwise fun p q => ¬p ≈ q) : report.length ≤ s.files.length := by
  have hnodup : (report.map components).Nodup := List.pairwise_map.2 hpairwise
  have hsubset : report.map components ⊆ s.files.map (·.path.components) := by
    intro c hc
    obtain ⟨p, hp, rfl⟩ := List.mem_map.1 hc
    obtain ⟨f, hf, hfp⟩ := hfiles p hp
    exact List.mem_map.2 ⟨f, hf, hfp⟩
  simpa only [List.length_map] using (List.subperm_of_subset hnodup hsubset).length_le

/-- With the standard conventions a walk that succeeds, by probing or over files that have texts for
names, has loaded its modules for different names that are reached, from where these are found.
Where two names are found at one file, both denote it and one ends like the other; names that differ
in spelling only are always found at one file. If no file is denoted by two of the names, then no
file is loaded twice, so that there are at most as many modules as files. -/
theorem files_shared_by_names (s : Store) (strategy : ResolveStrategy)
    (htexts : strategy = .index → TextNames s) (searchPath : SearchPath) (root : Bytes)
    (r : Resolution) (hok : (walk s.source {} strategy searchPath root).answer = .ok r) :
    (∃ names, LoadedFor s {} strategy searchPath root r names) ∧
    (∀ m n p q, located s {} strategy searchPath m = some p →
      located s {} strategy searchPath n = some q → p ≈ q →
        (∃ f ∈ s.files, f.path ≈ p ∧ Denotes {} searchPath m f.path ∧
          Denotes {} searchPath n f.path) ∧
        (trail (artifactPath {} m) <:+ trail (artifactPath {} n) ∨
          trail (artifactPath {} n) <:+ trail (artifactPath {} m))) ∧
    (∀ m n p q, trail (artifactPath {} m) = trail (artifactPath {} n) →
      located s {} strategy searchPath m = some p →
      located s {} strategy searchPath n = some q → p ≈ q) ∧
    (Unshared s {} searchPath root →
      r.report.Pairwise (fun p q => ¬p ≈ q) ∧ r.modules.length ≤ s.files.length) := by
  have hext : strategy = .index → PlainExtension ({} : Conventions).artifactExtension :=
    fun _ => plainExtension_default
  obtain ⟨names, hnames⟩ := exists_loadedFor hext htexts injective_standard hok
  refine ⟨⟨names, hnames⟩, fun m n p q hm hn hpq => ?_,
    fun m n p q htrail hm hn => equiv_of_same_trail hext htexts htrail hm hn, fun h => ?_⟩
  · obtain ⟨f, hf, hfp, hfm, hfn⟩ := exists_file_of_both_located hext htexts hm hn hpq
    exact ⟨⟨f, hf, hfp, hfm, hfn⟩, List.suffix_or_suffix_of_suffix (trail_suffix_of_denotes hfm)
      (trail_suffix_of_denotes hfn)⟩
  · have hpairwise := hnames.pairwise_report hext htexts h
    refine ⟨hpairwise, ?_⟩
    rw [hnames.length_modules]
    exact length_le_of_pairwise (fun _ => hnames.exists_file hext htexts) hpairwise

/-- What is loaded when both names have their own artifacts. -/
def bothLoaded : Resolution :=
  ⟨[("stdlib-external/a", importingBoth), ("GRAIN$MODULE$a", binary [])],
    ["lib/stdlib-external/a.gr.wasm", "lib/a.gr.wasm"]⟩

lemma walk_bothStored :
    (walk bothStored.source {} .index sourceThenLib importingBoth).answer = .ok bothLoaded := by
  refine congrArg WalkOutcome.answer (walk_eq_of_runs imports_importingBoth
    (.move (.load "stdlib-external/a" ["a"] [] ⟨"lib/stdlib-external/a.gr.wasm", importingBoth,
      ["stdlib-external/a", "a"]⟩ _ _ rfl (by decide) (by decide)
      (fetch_eq_ok_iff.2 ⟨by decide, by decide, imports_importingBoth, rfl, rfl⟩))
    (.move (.skip "stdlib-external/a" ["a"] [["a"]] rfl (.inr (by decide)))
    (.move (.load "a" [] [["a"]] ⟨"lib/a.gr.wasm", binary [], []⟩ _ _ rfl (by decide)
      (by decide) (fetch_eq_ok_iff.2 ⟨by decide, by decide, imports_nothing _, rfl, rfl⟩))
    (.move (.leave [[], ["a"]] rfl) (.move (.leave [["a"]] rfl)
    (.move (.skip "a" [] [] rfl (.inr (by decide)))
    (.move (.leave [] rfl) (.stop (.finished rfl))))))))))

lemma reach_bothStored (h : Reach bothStored.source {} sourceThenLib importingBoth name) :
    name ∈ ["stdlib-external/a", "a"] := by
  induction h with
  | root hn => exact ((mem_needs imports_importingBoth).1 hn).1
  | @dependency user name b hu hb hn ih =>
    have hbytes : ∀ user ∈ ["stdlib-external/a", "a"],
        artifact? bothStored.source {} sourceThenLib user = some importingBoth ∨
          artifact? bothStored.source {} sourceThenLib user = some (binary []) := by decide
    rcases hbytes user ih with h | h
    · cases h.symm.trans hb
      exact ((mem_needs imports_importingBoth).1 hn).1
    · cases h.symm.trans hb
      cases ((mem_needs (imports_nothing _)).1 hn).1

lemma unshared_bothStored : Unshared bothStored {} sourceThenLib importingBoth := by
  have hall : ∀ f ∈ bothStored.files, ∀ m ∈ ["stdlib-external/a", "a"],
      Denotes {} sourceThenLib m f.path → ∀ n ∈ ["stdlib-external/a", "a"],
        Denotes {} sourceThenLib n f.path → m = n := by decide
  intro m n hm hn f hf hfm hfn
  exact hall f hf m (reach_bothStored hm) hfm n (reach_bothStored hn) hfn

/-- A binary that imports `foo` in two spellings. -/
def importingRespelled : Bytes :=
  binary [.imports
    [⟨"GRAIN$MODULE$foo", "f", .function 0⟩, ⟨"GRAIN$MODULE$./foo", "f", .function 0⟩]]

/-- A store with one file. -/
def fooStored : Store := Store.ofList [("lib/foo.gr.wasm", binary [])]

lemma imports_importingRespelled :
    ({} : Conventions).imports importingRespelled = .ok ["foo", "./foo"] :=
  (imports_binary {} (by decide)).trans (congrArg Except.ok (by decide))

/-- What is loaded when both spellings are imported. -/
def respelledLoaded : Resolution :=
  ⟨[("GRAIN$MODULE$foo", binary []), ("GRAIN$MODULE$./foo", binary [])],
    ["lib/foo.gr.wasm", "lib/./foo.gr.wasm"]⟩

lemma walk_fooStored :
    (walk fooStored.source {} .probe sourceThenLib importingRespelled).answer =
      .ok respelledLoaded := by
  refine congrArg WalkOutcome.answer (walk_eq_of_runs imports_importingRespelled
    (.move (.load "foo" ["./foo"] [] ⟨"lib/foo.gr.wasm", binary [], []⟩ _ _ rfl (by decide)
      (by decide) (fetch_eq_ok_iff.2 ⟨by decide, by decide, imports_nothing _, rfl, rfl⟩))
    (.move (.leave [["./foo"]] rfl)
    (.move (.load "./foo" [] [] ⟨"lib/./foo.gr.wasm", binary [], []⟩ _ _ rfl (by decide)
      (by decide) (fetch_eq_ok_iff.2 ⟨by decide, by decide, imports_nothing _, rfl, rfl⟩))
    (.move (.leave [[]] rfl) (.move (.leave [] rfl) (.stop (.finished rfl))))))))

/-- One name ends like the other, but each has its own file. Two spellings of a name share one. -/
theorem files_shared_by_names_respelled :
    TextNames bothStored ∧ Unshared bothStored {} sourceThenLib importingBoth ∧
    (walk bothStored.source {} .index sourceThenLib importingBoth).answer = .ok bothLoaded ∧
    bothLoaded.report.Pairwise (fun p q => ¬p ≈ q) ∧
    bothLoaded.modules.length ≤ bothStored.files.length ∧
    (walk fooStored.source {} .probe sourceThenLib importingRespelled).answer =
      .ok respelledLoaded ∧
    ∃ f ∈ fooStored.files, Denotes {} sourceThenLib "foo" f.path ∧
      Denotes {} sourceThenLib "./foo" f.path := by
  have hnames : TextNames bothStored := by decide
  obtain ⟨-, -, -, hapart⟩ := files_shared_by_names bothStored .index (fun _ => hnames)
    sourceThenLib importingBoth bothLoaded walk_bothStored
  obtain ⟨-, hshared, hsame, -⟩ := files_shared_by_names fooStored .probe (by decide)
    sourceThenLib importingRespelled respelledLoaded walk_fooStored
  have hfoo : located fooStored {} .probe sourceThenLib "foo" =
      some (.ofText "lib/foo.gr.wasm") := by decide
  have hdotted : located fooStored {} .probe sourceThenLib "./foo" =
      some (.ofText "lib/./foo.gr.wasm") := by decide
  have hequiv := hsame "foo" "./foo" _ _ (by decide) hfoo hdotted
  obtain ⟨⟨f, hf, -, hdenotes⟩, -⟩ := hshared _ _ _ _ hfoo hdotted hequiv
  exact ⟨hnames, unshared_bothStored, walk_bothStored, (hapart unshared_bothStored).1,
    (hapart unshared_bothStored).2, walk_fooStored, f, hf, hdenotes⟩

/-- Two spellings of a name are two qualified names, under which one file is loaded twice. -/
theorem file_loaded_twice :
    ∃ r, (walk fooStored.source {} .probe sourceThenLib importingRespelled).answer = .ok r ∧
      r.modules.map Prod.fst = ["GRAIN$MODULE$foo", "GRAIN$MODULE$./foo"] ∧
      ¬r.report.Pairwise (fun p q => ¬p ≈ q) ∧ ¬r.modules.length ≤ fooStored.files.length :=
  ⟨respelledLoaded, walk_fooStored, rfl, by decide, by decide⟩

end WasmBundle.Proofs
