import WasmBundle.Proofs.ImportSections
import WasmBundle.Proofs.WalkClosure
import WasmBundle.Proofs.WalkQuestions
import WasmBundle.Proofs.WalkSteps

/-!
# Runtime names are left to the environment

A walk looks only for names that the environment does not supply and that the root or a loaded
module imports; every question it asks is about one of them. Modules are kept under qualified names,
though, and the prefix could make one of these a runtime name. `Excluding` says of a state which
names stand behind it, and where no runtime name begins with the prefix its keys are no runtime
names.
-/

namespace WasmBundle.Proofs
open Walk

section Exclusion

variable (src : FileSource) (v : Conventions) (strategy : ResolveStrategy) (searchPath : SearchPath)
  (root : Bytes)

/-- The root or a loaded module imports the name. -/
def ImportedBy (loaded : Resolution) (name : String) : Prop :=
  name ∈ scanned v root ∨ ∃ q b, (q, b) ∈ loaded.modules ∧ name ∈ scanned v b

/-- A resolver of the walk asks the question to find the artifact of the name, or the walk asks it
to read the artifact. -/
def AskedFor (name : String) (c : Consultation) : Prop :=
  ∃ r : Resolver, (r.searchPath = searchPath ∧ r.extension = v.artifactExtension ∧
      r.strategy = strategy) ∧
    (c ∈ (r.resolve src name).trace ∨
      ∃ path, (r.resolve src name).answer = .ok (some path) ∧ c = .reading path)

/-- What the questions and the keys of a walk come from. -/
structure Excluding (s : State) : Prop where
  resolver : s.resolver.searchPath = searchPath ∧ s.resolver.extension = v.artifactExtension ∧
    s.resolver.strategy = strategy
  pending : ∀ frame ∈ s.pending, ∀ name ∈ frame, ImportedBy v root s.loaded name
  keys : ∀ q ∈ s.loaded.modules.map Prod.fst,
    ∃ name, v.isRuntime name = false ∧ v.qualifiedName name = q
  trace : ∀ c ∈ s.trace, ∃ name, v.isRuntime name = false ∧ ImportedBy v root s.loaded name ∧
    AskedFor src v strategy searchPath name c

end Exclusion

variable {src : FileSource} {v : Conventions} {strategy : ResolveStrategy} {searchPath : SearchPath}
  {root : Bytes}

lemma askedFor_of_fetch {r r' : Resolver} {name qualified : String}
    {answer : Except WalkError Fetched} {trace : List Consultation}
    (hr : r.searchPath = searchPath ∧ r.extension = v.artifactExtension ∧ r.strategy = strategy)
    (hf : fetch src v r name qualified = (answer, r', trace)) {c : Consultation} (hc : c ∈ trace) :
    AskedFor src v strategy searchPath name c := by
  refine ⟨r, hr, ?_⟩
  simp only [fetch] at hf
  split at hf
  · cases hf
    exact .inl hc
  · cases hf
    exact .inl hc
  · rename_i path hpath
    cases hf
    rcases List.mem_append.1 hc with hc | hc
    · exact .inl hc
    · exact .inr ⟨path, hpath, List.mem_singleton.1 hc⟩

lemma mem_candidates_of_askedFor {name : String} {p : Path}
    (h : AskedFor src v strategy searchPath name (.probe p)) :
    p ∈ candidates searchPath v.artifactExtension name := by
  obtain ⟨r, ⟨rfl, hext, -⟩, hc | ⟨path, -, hc⟩⟩ := h
  · cases hr : r.strategy with
    | probe =>
      rw [resolve_probe src hr, hext] at hc
      exact (throughFirst_isPrefix _ _).subset (by simpa using hc)
    | index =>
      rw [resolve_eq_lookupRoots src hr] at hc
      obtain ⟨dir, hdir⟩ := listing_of_mem_lookupRoots hc
      cases hdir
  · cases hc

lemma ImportedBy.mono {loaded loaded' : Resolution} (h : loaded.modules ⊆ loaded'.modules)
    {name : String} (hn : ImportedBy v root loaded name) : ImportedBy v root loaded' name :=
  hn.imp id fun ⟨q, b, hm, hb⟩ => ⟨q, b, h hm, hb⟩

lemma excluding_start {names : List String} (h : v.imports root = .ok names) :
    Excluding src v strategy searchPath root (start v strategy searchPath names) where
  resolver := ⟨rfl, rfl, rfl⟩
  pending := by
    intro frame hf name hn
    cases List.mem_singleton.1 hf
    exact .inl (by simpa only [scanned, h] using hn)
  keys := fun q hq => nomatch hq
  trace := fun c hc => nomatch hc

/-- Every step keeps the invariant. -/
theorem excluding_of_move {s t : State} (hs : Excluding src v strategy searchPath root s)
    (h : Move src v s t) : Excluding src v strategy searchPath root t := by
  cases h with
  | leave rest hp =>
    exact ⟨hs.resolver, fun frame hf => hs.pending frame (hp ▸ List.mem_cons_of_mem _ hf), hs.keys,
      hs.trace⟩
  | skip name names rest hp hk =>
    refine ⟨hs.resolver, fun frame hf n hn => ?_, hs.keys, hs.trace⟩
    rcases List.mem_cons.1 hf with rfl | hf
    · exact hs.pending _ (hp ▸ List.mem_cons_self) n (List.mem_cons_of_mem _ hn)
    · exact hs.pending frame (hp ▸ List.mem_cons_of_mem _ hf) n hn
  | load name names rest m resolver trace hp hr hn hf =>
    obtain ⟨-, -, himports, hafter, -⟩ := fetch_eq_ok_iff.1 hf
    obtain ⟨index, hindex⟩ := exists_index_resolve src s.resolver name
    have hname : ImportedBy v root s.loaded name :=
      hs.pending _ (hp ▸ List.mem_cons_self) name List.mem_cons_self
    have hgrow : s.loaded.modules ⊆ s.loaded.modules ++ [(v.qualifiedName name, m.bytes)] :=
      List.subset_append_left _ _
    refine ⟨?_, fun frame hfr n hn' => ?_, fun q hq => ?_, fun c hc => ?_⟩
    · simp only [State.enter, ← hafter, hindex]
      exact hs.resolver
    · rcases List.mem_cons.1 hfr with rfl | hfr
      · refine .inr ⟨_, m.bytes, List.mem_append_right _ (List.mem_singleton_self _), ?_⟩
        simpa only [scanned, himports] using hn'
      · refine ImportedBy.mono hgrow ?_
        rcases List.mem_cons.1 hfr with rfl | hfr
        · exact hs.pending _ (hp ▸ List.mem_cons_self) n (List.mem_cons_of_mem _ hn')
        · exact hs.pending frame (hp ▸ List.mem_cons_of_mem _ hfr) n hn'
    · rw [← has_iff, has_enter, has_iff] at hq
      rcases hq with hq | rfl
      · exact hs.keys q hq
      · exact ⟨name, hr, rfl⟩
    · rcases List.mem_append.1 hc with hc | hc
      · obtain ⟨n, hrun, himported, hasked⟩ := hs.trace c hc
        exact ⟨n, hrun, himported.mono hgrow, hasked⟩
      · exact ⟨name, hr, hname.mono hgrow, askedFor_of_fetch hs.resolver hf hc⟩

lemma askedFor_of_stop {s : State} {o : WalkOutcome}
    (hs : Excluding src v strategy searchPath root s) (h : Stop src v s o) :
    ∀ c ∈ o.trace, ∃ name, v.isRuntime name = false ∧ ImportedBy v root s.loaded name ∧
      AskedFor src v strategy searchPath name c := by
  cases h with
  | finished hp => exact hs.trace
  | failed name names rest e resolver trace hp hr hn hf =>
    intro c hc
    rcases List.mem_append.1 hc with hc | hc
    · exact hs.trace c hc
    · exact ⟨name, hr, hs.pending _ (hp ▸ List.mem_cons_self) name List.mem_cons_self,
        askedFor_of_fetch hs.resolver hf hc⟩

lemma isRuntime_qualifiedName
    (hfree : v.modulePrefix = "" ∨
      ∀ runtime ∈ v.runtimeModules, ¬v.modulePrefix.toList <+: runtime.toList)
    {name : String} (h : v.isRuntime name = false) :
    v.isRuntime (v.qualifiedName name) = false := by
  unfold Conventions.qualifiedName
  split
  · exact h
  · rcases hfree with hempty | hnone
    · rwa [hempty, String.empty_append]
    · rw [← Bool.not_eq_true, Conventions.isRuntime, List.contains_iff_mem]
      intro hm
      exact hnone _ hm (by rw [String.toList_append]; exact List.prefix_append _ _)

/-- Another prefix may make one of them. -/
example : let v : Conventions := { modulePrefix := "grain" }
    v.isRuntime "Runtime" = false ∧ v.isRuntime (v.qualifiedName "Runtime") = true := by decide

/-- If there is no prefix or no runtime name begins with it, a walk that succeeds has no module
under a runtime name. Under any conventions, and however the walk ends, it asks only about names
that are no runtime names and are imported by the root or by a module it has loaded; what it probes
are the candidates of such names in the roots of the search path. -/
theorem runtime_names_excluded (src : FileSource) (v : Conventions) (strategy : ResolveStrategy)
    (searchPath : SearchPath) (root : Bytes) :
    ((v.modulePrefix = "" ∨
        ∀ runtime ∈ v.runtimeModules, ¬v.modulePrefix.toList <+: runtime.toList) →
      ∀ r, (walk src v strategy searchPath root).answer = .ok r →
        ∀ q ∈ r.modules.map Prod.fst, v.isRuntime q = false) ∧
    ((∃ e, v.imports root = .error e ∧
        walk src v strategy searchPath root = ⟨.error (.malformed rootName e), []⟩) ∨
      ∃ names log t, v.imports root = .ok names ∧
        Reaches src v (start v strategy searchPath names) log t ∧
        Stop src v t (walk src v strategy searchPath root) ∧
        (∀ c ∈ (walk src v strategy searchPath root).trace, ∃ name, v.isRuntime name = false ∧
          ImportedBy v root t.loaded name ∧ AskedFor src v strategy searchPath name c) ∧
        ∀ p ∈ probes (walk src v strategy searchPath root).trace,
          ∃ dir ∈ searchPath.roots, ∃ name, v.isRuntime name = false ∧
            ImportedBy v root t.loaded name ∧
            p = dir.join (.ofText (name ++ "." ++ v.artifactExtension))) := by
  refine ⟨fun hfree r hok q hq => ?_, ?_⟩
  · obtain ⟨s, hs, -, rfl, -⟩ := exists_finished (fun _ _ => excluding_of_move)
      (fun _ => excluding_start) hok
    obtain ⟨name, hr, rfl⟩ := hs.keys q hq
    exact isRuntime_qualifiedName hfree hr
  · cases hroot : v.imports root with
    | error e => exact .inl ⟨e, rfl, walk_of_malformed hroot⟩
    | ok names =>
      obtain ⟨log, t, hreach, hstop⟩ := exists_reaches_stop src strategy searchPath hroot
      have hstart : Excluding src v strategy searchPath root (start v strategy searchPath names) :=
        excluding_start hroot
      have hs := hreach.keeps (fun _ _ => excluding_of_move) hstart
      have hasked := askedFor_of_stop hs hstop
      refine .inr ⟨names, log, t, rfl, hreach, hstop, hasked, fun p hp => ?_⟩
      obtain ⟨name, hr, himported, hname⟩ := hasked _ (mem_probes.1 hp)
      obtain ⟨dir, hdir, rfl⟩ := List.mem_map.1 (mem_candidates_of_askedFor hname)
      exact ⟨dir, hdir, name, hr, himported, rfl⟩

/-- A binary that imports from the environment, and `a`. -/
def importingEnvA : Bytes :=
  binary [.imports [⟨"env", "memory", .memory 1⟩, ⟨"GRAIN$MODULE$a", "f", .function 0⟩]]

/-- A store in which `a` imports from the environment and itself, and `env` is a file as well. -/
def envStored : Store := Store.ofList
  [("lib/a.gr.wasm", importingEnvA), ("lib/env.gr.wasm", [])]

lemma imports_importingEnvA : ({} : Conventions).imports importingEnvA = .ok ["env", "a"] :=
  (imports_binary {} (by decide)).trans (congrArg Except.ok (by decide))

lemma walk_envStored : (walk envStored.source {} .index sourceThenLib importingEnvA).answer =
    .ok ⟨[("GRAIN$MODULE$a", importingEnvA)], ["lib/a.gr.wasm"]⟩ := by
  refine congrArg WalkOutcome.answer (walk_eq_of_runs imports_importingEnvA
    (.move (.skip "env" ["a"] [] rfl (.inl (by decide)))
    (.move (.load "a" [] [] ⟨"lib/a.gr.wasm", importingEnvA, ["env", "a"]⟩ _ _ rfl (by decide)
      (by decide) (fetch_eq_ok_iff.2 ⟨by decide, by decide, imports_importingEnvA, rfl, rfl⟩))
    (.move (.skip "env" ["a"] [[]] rfl (.inl (by decide)))
    (.move (.skip "a" [] [[]] rfl (.inr (by decide)))
    (.move (.leave [[]] rfl) (.move (.leave [] rfl) (.stop (.finished rfl)))))))))

/-- What the environment supplies is not taken from the store. -/
theorem runtime_names_excluded_env :
    (∀ runtime ∈ ({} : Conventions).runtimeModules,
      ¬({} : Conventions).modulePrefix.toList <+: runtime.toList) ∧
    ∃ r, (walk envStored.source {} .index sourceThenLib importingEnvA).answer = .ok r ∧
      ∀ q ∈ r.modules.map Prod.fst, ({} : Conventions).isRuntime q = false := by
  have hfree : ∀ runtime ∈ ({} : Conventions).runtimeModules,
      ¬({} : Conventions).modulePrefix.toList <+: runtime.toList := by decide
  exact ⟨hfree, _, walk_envStored,
    (runtime_names_excluded envStored.source {} .index sourceThenLib importingEnvA).1
      (.inr hfree) _ walk_envStored⟩

end WasmBundle.Proofs
