import Mathlib.Tactic.Lemma
import WasmBundle.Walk

/-!
# Steps and runs of the walk machine

A step leaves a module whose imports are all handled, skips an import, or loads one; a walk stops
when nothing is pending or when a module cannot be fetched. `Move` and `Stop` say so once, so that
no later proof opens `step`. `Runs n s o` counts the steps from `s` to the outcome `o`, and
`Reaches` goes from one state to a later one and keeps the import names for which modules are loaded
on the way.
-/

namespace WasmBundle.Proofs
open Walk

section Steps

variable (src : FileSource) (v : Conventions)

/-- What one step does when the walk goes on. -/
inductive Move (s : State) : State → Prop
  | leave (rest : List (List String)) (hp : s.pending = [] :: rest) :
    Move s { s with pending := rest }
  | skip (name : String) (names : List String) (rest : List (List String))
      (hp : s.pending = (name :: names) :: rest)
      (hk : v.isRuntime name = true ∨ s.has (v.qualifiedName name) = true) :
    Move s { s with pending := names :: rest }
  | load (name : String) (names : List String) (rest : List (List String)) (m : Fetched)
      (resolver : Resolver) (trace : List Consultation)
      (hp : s.pending = (name :: names) :: rest) (hr : v.isRuntime name = false)
      (hn : s.has (v.qualifiedName name) = false)
      (hf : fetch src v s.resolver name (v.qualifiedName name) = (.ok m, resolver, trace)) :
    Move s (s.enter (names :: rest) (v.qualifiedName name) m resolver trace)

/-- What one step does when the walk ends. -/
inductive Stop (s : State) : WalkOutcome → Prop
  | finished (hp : s.pending = []) : Stop s ⟨.ok s.loaded, s.trace⟩
  | failed (name : String) (names : List String) (rest : List (List String)) (e : WalkError)
      (resolver : Resolver) (trace : List Consultation)
      (hp : s.pending = (name :: names) :: rest) (hr : v.isRuntime name = false)
      (hn : s.has (v.qualifiedName name) = false)
      (hf : fetch src v s.resolver name (v.qualifiedName name) = (.error e, resolver, trace)) :
    Stop s ⟨.error e, s.trace ++ trace⟩

/-- The machine ends with the outcome after as many steps and one more. -/
inductive Runs : Nat → State → WalkOutcome → Prop
  | stop {s : State} {o : WalkOutcome} (h : Stop src v s o) : Runs 0 s o
  | move {n : Nat} {s t : State} {o : WalkOutcome} (h : Move src v s t) (hr : Runs n t o) :
    Runs (n + 1) s o

end Steps

variable {src : FileSource} {v : Conventions}

lemma classify_eq (name : String) :
    v.classify name = if v.isRuntime name then .runtime else .external (v.qualifiedName name) :=
  rfl

lemma has_iff (s : State) (q : String) : s.has q = true ↔ q ∈ s.loaded.modules.map Prod.fst := by
  simp only [State.has, List.any_eq_true, beq_iff_eq, List.mem_map]

lemma has_enter (s : State) (rest : List (List String)) (q q' : String) (m : Fetched)
    (resolver : Resolver) (trace : List Consultation) :
    (s.enter rest q m resolver trace).has q' = true ↔ s.has q' = true ∨ q' = q := by
  simp only [has_iff, State.enter, List.map_append, List.map_cons, List.map_nil, List.mem_append,
    List.mem_singleton]

lemma has_eq_false_iff (s : State) (q : String) :
    s.has q = false ↔ q ∉ s.loaded.modules.map Prod.fst := by
  rw [← has_iff, Bool.not_eq_true]

lemma nodup_of_move {s t : State} (h : Move src v s t)
    (hs : (s.loaded.modules.map Prod.fst).Nodup) : (t.loaded.modules.map Prod.fst).Nodup := by
  cases h with
  | leave rest hp => exact hs
  | skip name names rest hp hk => exact hs
  | load name names rest m resolver trace hp hr hn hf =>
    rw [has_eq_false_iff] at hn
    simp only [State.enter, List.map_append, List.map_cons, List.map_nil]
    refine List.nodup_append.2 ⟨hs, List.nodup_cons.2 ⟨List.not_mem_nil, List.nodup_nil⟩, ?_⟩
    rintro q hq q' hq' rfl
    exact hn (List.mem_singleton.1 hq' ▸ hq)

theorem move_of_step {s t : State} (h : step src v s = .inl t) : Move src v s t := by
  unfold step at h
  split at h
  · cases h
  · rename_i rest hp
    cases h
    exact .leave rest hp
  · rename_i name names rest hp
    rw [classify_eq] at h
    by_cases hr : v.isRuntime name = true
    · simp only [hr, ite_true] at h
      cases h
      exact .skip name names rest hp (.inl hr)
    · simp only [hr, Bool.false_eq_true, ite_false] at h
      split at h
      · rename_i hk
        cases h
        exact .skip name names rest hp (.inr hk)
      · rename_i hn
        split at h
        · cases h
        · rename_i m resolver trace hf
          cases h
          exact .load name names rest m resolver trace hp (by simpa using hr) (by simpa using hn) hf

theorem stop_of_step {s : State} {o : WalkOutcome} (h : step src v s = .inr o) :
    Stop src v s o := by
  unfold step at h
  split at h
  · rename_i hp
    cases h
    exact .finished hp
  · cases h
  · rename_i name names rest hp
    rw [classify_eq] at h
    by_cases hr : v.isRuntime name = true
    · simp only [hr, ite_true] at h
      cases h
    · simp only [hr, Bool.false_eq_true, ite_false] at h
      split at h
      · cases h
      · rename_i hn
        split at h
        · rename_i e resolver trace hf
          cases h
          exact .failed name names rest e resolver trace hp (by simpa using hr)
            (by simpa using hn) hf
        · cases h

lemma step_of_move {s t : State} (h : Move src v s t) : step src v s = .inl t := by
  cases h with
  | leave rest hp => simp only [step, hp]
  | skip name names rest hp hk =>
    simp only [step, hp, classify_eq]
    by_cases hr : v.isRuntime name = true
    · simp only [hr, ite_true]
    · have hk : s.has (v.qualifiedName name) = true := hk.resolve_left hr
      simp only [hr, hk, Bool.false_eq_true, ite_true, ite_false]
  | load name names rest m resolver trace hp hr hn hf =>
    simp only [step, hp, classify_eq, hr, hn, hf, Bool.false_eq_true, ite_false]

lemma step_of_stop {s : State} {o : WalkOutcome} (h : Stop src v s o) :
    step src v s = .inr o := by
  cases h with
  | finished hp => simp only [step, hp]
  | failed name names rest e resolver trace hp hr hn hf =>
    simp only [step, hp, classify_eq, hr, hn, hf, Bool.false_eq_true, ite_false]

/-- Runs from one state end alike. -/
theorem runs_unique {n k : Nat} {s : State} {o p : WalkOutcome} (ho : Runs src v n s o)
    (hp : Runs src v k s p) : o = p := by
  induction ho generalizing k with
  | stop h =>
    cases hp with
    | stop h' => exact Sum.inr.inj ((step_of_stop h).symm.trans (step_of_stop h'))
    | move h' _ => cases (step_of_stop h).symm.trans (step_of_move h')
  | move h _ ih =>
    cases hp with
    | stop h' => cases (step_of_move h).symm.trans (step_of_stop h')
    | move h' hp =>
      cases (step_of_move h).symm.trans (step_of_move h')
      exact ih hp

/-- What every step keeps holds where a run stops. -/
theorem exists_stop {P : State → Prop} (hstep : ∀ s t, P s → Move src v s t → P t) {n : Nat}
    {s : State} {o : WalkOutcome} (hr : Runs src v n s o) (hs : P s) :
    ∃ t, P t ∧ Stop src v t o := by
  induction hr with
  | stop h => exact ⟨_, hs, h⟩
  | move h _ ih => exact ih (hstep _ _ hs h)

theorem exists_runs {root : Bytes} (s : State) (hs : s.Within (nameSupply src v root)) :
    ∃ n, Runs src v n s (run src v root s hs) := by
  induction s, hs using run.induct src v root with
  | case1 s hs o h =>
    rw [run]
    split
    · rename_i o' h'
      cases h.symm.trans h'
      exact ⟨0, .stop (stop_of_step h)⟩
    · rename_i t h'
      cases h.symm.trans h'
  | case2 s hs t h ih =>
    obtain ⟨n, hn⟩ := ih
    rw [run]
    split
    · rename_i o' h'
      cases h.symm.trans h'
    · rename_i t' h'
      cases h.symm.trans h'
      exact ⟨n + 1, .move (move_of_step h) hn⟩

/-- The state of a walk whose root imports the names. -/
def start (v : Conventions) (strategy : ResolveStrategy) (searchPath : SearchPath)
    (names : List String) : State where
  pending := [names]
  resolver :=
    { searchPath := searchPath, extension := v.artifactExtension, strategy := strategy }

theorem walk_of_malformed {strategy : ResolveStrategy} {searchPath : SearchPath} {root : Bytes}
    {e : Wasm.Malformed} (h : v.imports root = .error e) :
    walk src v strategy searchPath root = ⟨.error (.malformed rootName e), []⟩ := by
  unfold walk
  split
  · rename_i e' h'
    cases h.symm.trans h'
    rfl
  · rename_i names h'
    cases h.symm.trans h'

theorem exists_runs_walk (src : FileSource) (strategy : ResolveStrategy) (searchPath : SearchPath)
    {root : Bytes} {names : List String} (h : v.imports root = .ok names) :
    ∃ n, Runs src v n (start v strategy searchPath names)
      (walk src v strategy searchPath root) := by
  unfold walk
  split
  · rename_i e h'
    cases h.symm.trans h'
  · rename_i names' h'
    cases h.symm.trans h'
    exact exists_runs _ _

/-- A walk comes to what any run from the imports of its root comes to. -/
theorem walk_eq_of_runs {strategy : ResolveStrategy} {searchPath : SearchPath} {root : Bytes}
    {names : List String} (h : v.imports root = .ok names) {n : Nat} {o : WalkOutcome}
    (hruns : Runs src v n (start v strategy searchPath names) o) :
    walk src v strategy searchPath root = o := by
  obtain ⟨k, hwalk⟩ := exists_runs_walk src strategy searchPath h
  exact runs_unique hwalk hruns

/-- What holds at the start and is kept by every step holds where a walk succeeds. -/
theorem exists_finished {P : State → Prop} {strategy : ResolveStrategy} {searchPath : SearchPath}
    {root : Bytes} (hstep : ∀ s t, P s → Move src v s t → P t)
    (hstart : ∀ names, v.imports root = .ok names → P (start v strategy searchPath names))
    {r : Resolution} (hok : (walk src v strategy searchPath root).answer = .ok r) :
    ∃ s, P s ∧ s.pending = [] ∧ s.loaded = r ∧
      (walk src v strategy searchPath root).trace = s.trace := by
  cases hroot : v.imports root with
  | error e =>
    rw [walk_of_malformed hroot] at hok
    cases hok
  | ok names =>
    obtain ⟨n, hruns⟩ := exists_runs_walk src strategy searchPath hroot
    obtain ⟨s, hs, hstop⟩ := exists_stop hstep hruns (hstart names hroot)
    generalize walk src v strategy searchPath root = o at hstop hok ⊢
    cases hstop with
    | finished hp => exact ⟨s, hs, hp, Except.ok.inj hok, rfl⟩
    | failed => cases hok

theorem fetch_eq_ok_iff {r r' : Resolver} {name qualified : String} {m : Fetched}
    {trace : List Consultation} :
    fetch src v r name qualified = (.ok m, r', trace) ↔
      (r.resolve src name).answer = .ok (some m.path) ∧ src.read m.path = .ok m.bytes ∧
        v.imports m.bytes = .ok m.imports ∧ (r.resolve src name).resolver = r' ∧
        (r.resolve src name).trace ++ [.reading m.path] = trace := by
  simp only [fetch]
  constructor
  · intro h
    split at h
    · cases h
    · cases h
    · rename_i path hpath
      split at h
      · cases h
      · rename_i bytes hbytes
        split at h
        · cases h
        · rename_i imports himports
          cases h
          exact ⟨hpath, hbytes, himports, rfl, rfl⟩
  · rintro ⟨hpath, hbytes, himports, rfl, rfl⟩
    simp only [hpath, hbytes, himports]

section History

variable (src v)

/-- The machine goes from the state to a later one and loads modules for the names, in order. -/
inductive Reaches (s : State) : List String → State → Prop
  | refl : Reaches s [] s
  | pass {log : List String} {t u : State} (h : Reaches s log t) (hm : Move src v t u)
      (hl : u.loaded = t.loaded) : Reaches s log u
  | load {log : List String} {t : State} (h : Reaches s log t) (name : String)
      (names : List String) (rest : List (List String)) (m : Fetched) (resolver : Resolver)
      (trace : List Consultation) (hp : t.pending = (name :: names) :: rest)
      (hr : v.isRuntime name = false) (hn : t.has (v.qualifiedName name) = false)
      (hf : fetch src v t.resolver name (v.qualifiedName name) = (.ok m, resolver, trace)) :
      Reaches s (log ++ [name])
        (t.enter (names :: rest) (v.qualifiedName name) m resolver trace)

end History

variable {s : State}

lemma exists_reaches_of_move {log : List String} {t u : State} (h : Reaches src v s log t)
    (hm : Move src v t u) : ∃ log', Reaches src v s log' u := by
  cases hm with
  | leave rest hp => exact ⟨log, .pass h (.leave rest hp) rfl⟩
  | skip name names rest hp hk => exact ⟨log, .pass h (.skip name names rest hp hk) rfl⟩
  | load name names rest m resolver trace hp hr hn hf =>
    exact ⟨log ++ [name], .load h name names rest m resolver trace hp hr hn hf⟩

/-- What every step keeps holds of every state that is reached. -/
theorem Reaches.keeps {P : State → Prop} (hstep : ∀ t u, P t → Move src v t u → P u)
    {log : List String} {t : State} (h : Reaches src v s log t) (hs : P s) : P t := by
  induction h with
  | refl => exact hs
  | pass _ hm _ ih => exact hstep _ _ ih hm
  | load _ name names rest m resolver trace hp hr hn hf ih =>
    exact hstep _ _ ih (.load name names rest m resolver trace hp hr hn hf)

/-- The modules stand under the qualified names of the names they were loaded for. -/
theorem Reaches.map_modules {log : List String} {t : State} (h : Reaches src v s log t) :
    t.loaded.modules.map Prod.fst =
      s.loaded.modules.map Prod.fst ++ log.map v.qualifiedName := by
  induction h with
  | refl => rw [List.map_nil, List.append_nil]
  | pass _ _ hl ih => rw [hl, ih]
  | load _ name names rest m resolver trace hp hr hn hf ih =>
    simp only [State.enter, List.map_append, List.map_cons, List.map_nil, ih, List.append_assoc]

/-- A walk whose root can be scanned stops in a state that it reaches from the root's imports. -/
theorem exists_reaches_stop (src : FileSource) (strategy : ResolveStrategy)
    (searchPath : SearchPath) {root : Bytes} {names : List String}
    (h : v.imports root = .ok names) :
    ∃ log t, Reaches src v (start v strategy searchPath names) log t ∧
      Stop src v t (walk src v strategy searchPath root) := by
  obtain ⟨n, hruns⟩ := exists_runs_walk src strategy searchPath h
  obtain ⟨t, ⟨log, hlog⟩, hstop⟩ := exists_stop
    (P := fun t => ∃ log, Reaches src v (start v strategy searchPath names) log t)
    (fun _ _ ⟨_, hlog⟩ hm => exists_reaches_of_move hlog hm) hruns ⟨[], .refl⟩
  exact ⟨log, t, hlog, hstop⟩

end WasmBundle.Proofs
