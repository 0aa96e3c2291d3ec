import WasmBundle.Proofs.WalkClosure
import WasmBundle.Proofs.WalkQuestions

/-!
# The walk as a recursion

`Explores` is the depth-first algorithm as one would write it down, as rules: the imports of a
module are handled in order, and a module that is loaded is explored to its end before the next
import. Nothing in the rules says that they lead anywhere; the machine does what they say, so that
they have one outcome, which is that of `walk`.
-/

namespace WasmBundle.Proofs
open Walk

/-- What an exploration hands on: what is loaded, the resolver and the questions asked. -/
structure Progress where
  loaded : Resolution := {}
  resolver : Resolver
  trace : List Consultation := []

/-- A failed exploration hands on its error and the questions asked up to it. -/
abbrev Explored := Except (WalkError × List Consultation) Progress

section Exploration

variable (src : FileSource) (v : Conventions)

/-- Resolves an import name, reads the artifact, scans it and adds it to what is loaded. Its own
imports are handed on with the progress. -/
def load (p : Progress) (name : String) :
    Except (WalkError × List Consultation) (Progress × List String) :=
  let found := p.resolver.resolve src name
  let asked := p.trace ++ found.trace
  match found.answer with
  | .error e => .error (.listing e, asked)
  | .ok none => .error (.unresolved name, asked)
  | .ok (some path) =>
    let asked := asked ++ [.reading path]
    match src.read path with
    | .error e => .error (.unreadable path e, asked)
    | .ok bytes =>
      match v.imports bytes with
      | .error e => .error (.malformed (v.qualifiedName name) e, asked)
      | .ok imports =>
        let loaded : Resolution :=
          { modules := p.loaded.modules ++ [(v.qualifiedName name, bytes)]
            report := p.loaded.report ++ [path] }
        .ok (⟨loaded, found.resolver, asked⟩, imports)

/-- What handling import names in order comes to. -/
inductive Explores : Progress → List String → Explored → Prop
  | done (p : Progress) : Explores p [] (.ok p)
  | skip {p : Progress} {name : String} {names : List String} {r : Explored}
      (hk : v.isRuntime name = true ∨ v.qualifiedName name ∈ p.loaded.modules.map Prod.fst)
      (h : Explores p names r) : Explores p (name :: names) r
  | failed {p : Progress} {name : String} {names : List String}
      {e : WalkError × List Consultation} (hr : v.isRuntime name = false)
      (hn : v.qualifiedName name ∉ p.loaded.modules.map Prod.fst)
      (hl : load src v p name = .error e) : Explores p (name :: names) (.error e)
  | failedBelow {p q : Progress} {name : String} {names imports : List String}
      {e : WalkError × List Consultation} (hr : v.isRuntime name = false)
      (hn : v.qualifiedName name ∉ p.loaded.modules.map Prod.fst)
      (hl : load src v p name = .ok (q, imports)) (hb : Explores q imports (.error e)) :
      Explores p (name :: names) (.error e)
  | loaded {p q below : Progress} {name : String} {names imports : List String} {r : Explored}
      (hr : v.isRuntime name = false)
      (hn : v.qualifiedName name ∉ p.loaded.modules.map Prod.fst)
      (hl : load src v p name = .ok (q, imports)) (hb : Explores q imports (.ok below))
      (h : Explores below names r) : Explores p (name :: names) r

/-- What scanning the root and exploring its imports comes to. -/
inductive DepthFirst (strategy : ResolveStrategy) (searchPath : SearchPath) (root : Bytes) :
    WalkOutcome → Prop
  | malformed {e : Wasm.Malformed} (h : v.imports root = .error e) :
      DepthFirst strategy searchPath root ⟨.error (.malformed rootName e), []⟩
  | failed {names : List String} {e : WalkError} {trace : List Consultation}
      (h : v.imports root = .ok names)
      (he : Explores src v { resolver := ⟨searchPath, v.artifactExtension, strategy, []⟩ } names
        (.error (e, trace))) :
      DepthFirst strategy searchPath root ⟨.error e, trace⟩
  | finished {names : List String} {p : Progress} (h : v.imports root = .ok names)
      (he : Explores src v { resolver := ⟨searchPath, v.artifactExtension, strategy, []⟩ } names
        (.ok p)) :
      DepthFirst strategy searchPath root ⟨.ok p.loaded, p.trace⟩

end Exploration

variable {src : FileSource} {v : Conventions}

lemma load_cases (src : FileSource) (v : Conventions) (p : Progress) (name : String) :
    (∃ e resolver trace,
      fetch src v p.resolver name (v.qualifiedName name) = (.error e, resolver, trace) ∧
        load src v p name = .error (e, p.trace ++ trace)) ∨
    ∃ m resolver trace,
      fetch src v p.resolver name (v.qualifiedName name) = (.ok m, resolver, trace) ∧
        load src v p name = .ok (⟨{ modules := p.loaded.modules ++ [(v.qualifiedName name, m.bytes)]
                                    report := p.loaded.report ++ [m.path] },
          resolver, p.trace ++ trace⟩, m.imports) := by
  have happ (path : Path) : p.trace ++ (p.resolver.resolve src name).trace ++ [.reading path] =
      p.trace ++ ((p.resolver.resolve src name).trace ++ [.reading path]) := List.append_assoc ..
  cases ha : (p.resolver.resolve src name).answer with
  | error e =>
    refine .inl ⟨.listing e, _, _, by simp only [fetch, ha]; rfl, ?_⟩
    simp only [load, ha]
  | ok found =>
    cases found with
    | none =>
      refine .inl ⟨.unresolved name, _, _, by simp only [fetch, ha]; rfl, ?_⟩
      simp only [load, ha]
    | some path =>
      cases hb : src.read path with
      | error e =>
        refine .inl ⟨.unreadable path e, _, _, by simp only [fetch, ha, hb]; rfl, ?_⟩
        simp only [load, ha, hb, happ]
      | ok bytes =>
        cases hi : v.imports bytes with
        | error e =>
          refine .inl ⟨.malformed (v.qualifiedName name) e, _, _,
            by simp only [fetch, ha, hb, hi]; rfl, ?_⟩
          simp only [load, ha, hb, hi, happ]
        | ok imports =>
          refine .inr ⟨⟨path, bytes, imports⟩, _, _, by simp only [fetch, ha, hb, hi]; rfl, ?_⟩
          simp only [load, ha, hb, hi, happ]

/-- What a state of the machine has in common with an exploration. -/
def progress (s : State) : Progress := ⟨s.loaded, s.resolver, s.trace⟩

/-- The state of the machine in which the progress has been made. -/
def resumed (p : Progress) (pending : List (List String)) : State :=
  ⟨pending, p.loaded, p.resolver, p.trace⟩

/-- After an exploration the machine ends with the outcome in less than `n` steps: it fails where
the exploration does, and else it goes on with the modules below. -/
def Ends (src : FileSource) (v : Conventions) (n : Nat) (rest : List (List String))
    (o : WalkOutcome) : Explored → Prop
  | .error (e, trace) => o = ⟨.error e, trace⟩
  | .ok q => ∃ k < n, Runs src v k (resumed q rest) o

lemma Ends.mono {n k : Nat} {rest : List (List String)} {o : WalkOutcome} {r : Explored}
    (h : Ends src v k rest o r) (hk : k ≤ n) : Ends src v n rest o r := by
  cases r with
  | error e => exact h
  | ok q =>
    obtain ⟨j, hj, hr⟩ := h
    exact ⟨j, by omega, hr⟩

/-- A run first does what exploring the innermost module comes to. -/
theorem explores_of_runs {n : Nat} {s : State} {o : WalkOutcome} {names : List String}
    {rest : List (List String)} (hruns : Runs src v n s o) (hp : s.pending = names :: rest) :
    ∃ r, Explores src v (progress s) names r ∧ Ends src v n rest o r := by
  induction n using Nat.strongRecOn generalizing s names rest with
  | ind n ih =>
    cases hruns with
    | stop hstop =>
      cases hstop with
      | finished hp' => cases hp.symm.trans hp'
      | failed name names' rest' e resolver trace hp' hr hn hf =>
        cases hp.symm.trans hp'
        rw [has_eq_false_iff] at hn
        rcases load_cases src v (progress s) name with ⟨e', _, _, hf', hl⟩ | ⟨_, _, _, hf', -⟩
        · cases hf.symm.trans hf'
          exact ⟨_, .failed hr hn hl, rfl⟩
        · cases hf.symm.trans hf'
    | @move n _ t _ hmove hruns =>
      have hlt : n < n + 1 := Nat.lt_succ_self n
      cases hmove with
      | leave rest' hp' =>
        cases hp.symm.trans hp'
        exact ⟨.ok (progress s), .done _, n, hlt, hruns⟩
      | skip name names' rest' hp' hk =>
        cases hp.symm.trans hp'
        rw [has_iff] at hk
        obtain ⟨r, hr, he⟩ := ih n hlt hruns rfl
        exact ⟨r, .skip hk hr, he.mono hlt.le⟩
      | load name names' rest' m resolver trace hp' hr hn hf =>
        cases hp.symm.trans hp'
        rw [has_eq_false_iff] at hn
        rcases load_cases src v (progress s) name with ⟨_, _, _, hf', -⟩ | ⟨m', _, _, hf', hl⟩
        · cases hf.symm.trans hf'
        · cases hf.symm.trans hf'
          -- the loaded module first, then its siblings from what it hands on
          obtain ⟨below, hb, he⟩ := ih n hlt hruns rfl
          cases below with
          | error e => exact ⟨.error e, .failedBelow hr hn hl hb, he⟩
          | ok q =>
            obtain ⟨k, hk, hruns⟩ := he
            obtain ⟨r, hrest, he⟩ := ih k (by omega) hruns rfl
            exact ⟨r, .loaded hr hn hl hb hrest, he.mono (by omega)⟩

/-- Where the rules lead, the machine goes too. -/
theorem runs_of_explores {p : Progress} {names : List String} {r : Explored}
    (h : Explores src v p names r) {n : Nat} {rest : List (List String)} {o : WalkOutcome}
    (he : Ends src v n rest o r) : ∃ k, Runs src v k (resumed p (names :: rest)) o := by
  induction h generalizing n rest with
  | done p =>
    obtain ⟨k, -, hruns⟩ := he
    exact ⟨k + 1, .move (.leave rest rfl) hruns⟩
  | @skip p name names r hk h ih =>
    obtain ⟨k, hruns⟩ := ih he
    refine ⟨k + 1, .move (.skip name names rest rfl ?_) hruns⟩
    rwa [has_iff]
  | @failed p name names e hr hn hl =>
    rcases load_cases src v p name with ⟨e', resolver, trace, hf, hl'⟩ | ⟨_, _, _, -, hl'⟩
    · cases hl.symm.trans hl'
      cases he
      exact ⟨0, .stop (.failed name names rest e' resolver trace rfl hr
        ((has_eq_false_iff _ _).2 hn) hf)⟩
    · cases hl.symm.trans hl'
  | @failedBelow p q name names imports e hr hn hl hb ih =>
    have hends : Ends src v n (names :: rest) o (.error e) := he
    obtain ⟨k, hruns⟩ := ih hends
    rcases load_cases src v p name with ⟨_, _, _, -, hl'⟩ | ⟨m, resolver, trace, hf, hl'⟩
    · cases hl.symm.trans hl'
    · cases hl.symm.trans hl'
      exact ⟨k + 1, .move (.load name names rest m resolver trace rfl hr
        ((has_eq_false_iff _ _).2 hn) hf) hruns⟩
  | @loaded p q below name names imports r hr hn hl hb h ihb ih =>
    obtain ⟨j, hbelow⟩ := ih he
    have hends : Ends src v (j + 1) (names :: rest) o (.ok below) :=
      ⟨j, Nat.lt_succ_self j, hbelow⟩
    obtain ⟨k, hruns⟩ := ihb hends
    rcases load_cases src v p name with ⟨_, _, _, -, hl'⟩ | ⟨m, resolver, trace, hf, hl'⟩
    · cases hl.symm.trans hl'
    · cases hl.symm.trans hl'
      exact ⟨k + 1, .move (.load name names rest m resolver trace rfl hr
        ((has_eq_false_iff _ _).2 hn) hf) hruns⟩

/-- The machine comes to what the recursion comes to, and to nothing else. -/
theorem depthFirst_iff (src : FileSource) (v : Conventions) (strategy : ResolveStrategy)
    (searchPath : SearchPath) (root : Bytes) (o : WalkOutcome) :
    DepthFirst src v strategy searchPath root o ↔ walk src v strategy searchPath root = o := by
  constructor
  · intro h
    cases h with
    | malformed h => exact walk_of_malformed h
    | @failed names e trace h he =>
      have hends : Ends src v 0 [] ⟨.error e, trace⟩ (.error (e, trace)) := rfl
      obtain ⟨k, hruns⟩ := runs_of_explores he hends
      exact walk_eq_of_runs h hruns
    | @finished names p h he =>
      have hends : Ends src v 1 [] ⟨.ok p.loaded, p.trace⟩ (.ok p) :=
        ⟨0, Nat.zero_lt_one, .stop (.finished rfl)⟩
      obtain ⟨k, hruns⟩ := runs_of_explores he hends
      exact walk_eq_of_runs h hruns
  · rintro rfl
    cases hroot : v.imports root with
    | error e =>
      rw [walk_of_malformed hroot]
      exact .malformed hroot
    | ok names =>
      obtain ⟨n, hwalk⟩ := exists_runs_walk src strategy searchPath hroot
      obtain ⟨r, hr, he⟩ := explores_of_runs hwalk rfl
      cases r with
      | error e =>
        have ho : walk src v strategy searchPath root = ⟨.error e.1, e.2⟩ := he
        rw [ho]
        exact .failed hroot hr
      | ok p =>
        obtain ⟨k, -, hend⟩ := he
        have hstop : Stop src v (resumed p []) ⟨.ok p.loaded, p.trace⟩ := .finished rfl
        rw [runs_unique hend (.stop hstop)]
        exact .finished hroot hr

section Loads

variable (src : FileSource) (v : Conventions) (searchPath : SearchPath)

/-- The loads explain a walk: each is an import name and the position of the root that has its
artifact. The modules stand under the qualified names, the report lists the artifacts, and for
each load the candidates were asked for up to the artifact. -/
structure Explain (loads : List (String × Nat)) (r : Resolution) (trace : List Consultation) :
    Prop where
  modules : r.modules.map Prod.fst = loads.map fun l => v.qualifiedName l.1
  report : List.Forall₂
    (fun l path => FirstFile src (candidates searchPath v.artifactExtension l.1) l.2 path)
    loads r.report
  probes : probes trace =
    loads.flatMap fun l => (candidates searchPath v.artifactExtension l.1).take (l.2 + 1)

end Loads

variable {searchPath : SearchPath}

lemma explained_of_move {s t : State} (h : Move src v s t)
    (hs : s.resolver =
        { searchPath := searchPath, extension := v.artifactExtension, strategy := .probe } ∧
      ∃ loads, Explain src v searchPath loads s.loaded s.trace) :
    t.resolver =
        { searchPath := searchPath, extension := v.artifactExtension, strategy := .probe } ∧
      ∃ loads, Explain src v searchPath loads t.loaded t.trace := by
  cases h with
  | leave rest hp => exact hs
  | skip name names rest hp hk => exact hs
  | load name names rest m resolver trace hp hr hn hf =>
    obtain ⟨hres, loads, hloads⟩ := hs
    obtain ⟨hpath, -, -, hafter, htrace⟩ := fetch_eq_ok_iff.1 hf
    rw [resolve_probe src (by rw [hres]), hres] at hpath hafter htrace
    obtain ⟨k, hk, hthrough⟩ := exists_firstFile (Except.ok.inj hpath)
    have hone : probes trace =
        (candidates searchPath v.artifactExtension name).take (k + 1) := by
      rw [← htrace, probes_append, probes_map_probe, hthrough]
      exact List.append_nil _
    refine ⟨hafter.symm, loads ++ [(name, k)], ?_, ?_, ?_⟩
    · simp only [State.enter, List.map_append, hloads.modules, List.map_cons, List.map_nil]
    · exact List.rel_append hloads.report (.cons hk .nil)
    · simp only [State.enter, probes_append, hloads.probes, hone, List.flatMap_append,
        List.flatMap_cons, List.flatMap_nil, List.append_nil]

lemma exists_explain {root : Bytes} {r : Resolution}
    (hok : (walk src v .probe searchPath root).answer = .ok r) :
    ∃ loads, Explain src v searchPath loads r (walk src v .probe searchPath root).trace := by
  have hstart : ∀ names, Explain src v searchPath [] (start v .probe searchPath names).loaded
      (start v .probe searchPath names).trace := fun _ => ⟨rfl, .nil, rfl⟩
  obtain ⟨s, ⟨-, hs⟩, -, rfl, htrace⟩ := exists_finished (fun _ _ hs h => explained_of_move h hs)
    (fun names _ => ⟨rfl, [], hstart names⟩) hok
  rw [htrace]
  exact hs

/-- The walk is the depth-first recursion: the same modules in the same order, the same report, the
same first failure and the same questions. A probing walk that succeeds has asked, for each module
in the order of loading, for the candidates up to the artifact, and for nothing else. -/
theorem walk_refines_depthFirst (src : FileSource) (v : Conventions) (strategy : ResolveStrategy)
    (searchPath : SearchPath) (root : Bytes) :
    (∀ o, DepthFirst src v strategy searchPath root o ↔
      walk src v strategy searchPath root = o) ∧
    ∀ r, (walk src v .probe searchPath root).answer = .ok r →
      ∃ loads, Explain src v searchPath loads r (walk src v .probe searchPath root).trace :=
  ⟨depthFirst_iff src v strategy searchPath root, fun _ => exists_explain⟩

theorem walk_refines_depthFirst_self_import :
    ∃ r, (walk selfImporting.source unmarked .probe sourceThenLib importingA).answer = .ok r ∧
      ∃ loads, Explain selfImporting.source unmarked sourceThenLib loads r
        (walk selfImporting.source unmarked .probe sourceThenLib importingA).trace := by
  have hall := (walk_refines_depthFirst selfImporting.source unmarked .probe sourceThenLib
    importingA).2
  rcases probe_walk_cases selfImporting.source unmarked sourceThenLib importingA with
    ⟨e, hroot, -⟩ | ⟨name, e, trace, hreach, hnot, -⟩ | ⟨s, names, -, -, -, hw⟩
  · cases imports_importingA.symm.trans hroot
  · exact absurd (loadable_selfImporting hreach) hnot
  · have hok : (walk selfImporting.source unmarked .probe sourceThenLib importingA).answer =
        .ok s.loaded := by rw [hw]
    exact ⟨s.loaded, hok, hall s.loaded hok⟩

end WasmBundle.Proofs
