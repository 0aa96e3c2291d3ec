import WasmBundle.Proofs.WalkClosure
import WasmBundle.Proofs.WalkQuestions

/-!
# How long a walk is

Every walk ends, whatever its source. The qualified names it can load are those of the names
imported by the root or by a file, which are finitely many; each is loaded at most once, and only
loading puts imports on the stack. So the number of these names bounds the frames put on the stack
and its height, and no name makes the walk read twice.
-/

namespace WasmBundle.Proofs
open Walk

section Courses

variable (src : FileSource) (v : Conventions)

/-- From the state the machine goes through the later ones, one a step, and ends. -/
inductive Course : State → List State → WalkOutcome → Prop
  | stop {s : State} {o : WalkOutcome} (h : step src v s = .inr o) : Course s [] o
  | move {s t : State} {later : List State} {o : WalkOutcome} (h : step src v s = .inl t)
      (hc : Course t later o) : Course s (t :: later) o

/-- How many frames are put on the stack on the way. -/
def pushes : State → List State → Nat
  | _, [] => 0
  | s, t :: later => t.pending.length - s.pending.length + pushes t later

/-- The files read while the next import of the state is handled, each with the qualified name it
is read for. The trace is the one that is left. -/
def readFor (s : State) (trace : List Consultation) : List (String × Path) :=
  match s.pending with
  | (name :: _) :: _ =>
    (readings (trace.drop s.trace.length)).map fun path => (v.qualifiedName name, path)
  | _ => []

/-- The files read on the way, in order, each with the qualified name it is read for. -/
def calls : State → List State → WalkOutcome → List (String × Path)
  | s, [], o => readFor v s o.trace
  | s, t :: later, o => readFor v s t.trace ++ calls t later o

/-- The qualified names of what the root and the files import. -/
def importKeys (root : Bytes) : Finset String :=
  ((needs v root ++ src.contents.flatMap (needs v)).map v.qualifiedName).toFinset

/-- What every state of a walk satisfies if it can load the given names only. -/
structure Bounded (keys : Finset String) (s : State) : Prop where
  loaded_nodup : (s.loaded.modules.map Prod.fst).Nodup
  loaded_mem : ∀ q ∈ s.loaded.modules.map Prod.fst, q ∈ keys
  pending_mem : ∀ frame ∈ s.pending, ∀ name ∈ frame, v.isRuntime name = false →
    v.qualifiedName name ∈ keys
  height : s.pending.length ≤ s.loaded.modules.length + 1

end Courses

variable {src : FileSource} {v : Conventions} {root : Bytes}

lemma exists_course {n : Nat} {s : State} {o : WalkOutcome} (h : Runs src v n s o) :
    ∃ later, Course src v s later o := by
  induction h with
  | stop h => exact ⟨[], .stop (step_of_stop h)⟩
  | move h _ ih =>
    obtain ⟨later, hc⟩ := ih
    exact ⟨_ :: later, .move (step_of_move h) hc⟩

lemma forall_of_course {P : State → Prop} (hstep : ∀ s t, P s → Move src v s t → P t) {s : State}
    {later : List State} {o : WalkOutcome} (hc : Course src v s later o) (hs : P s) :
    ∀ t ∈ s :: later, P t := by
  induction hc with
  | stop h => exact fun t ht => List.mem_singleton.1 ht ▸ hs
  | move h _ ih =>
    intro t ht
    rcases List.mem_cons.1 ht with rfl | ht
    · exact hs
    · exact ih (hstep _ _ hs (move_of_step h)) t ht

lemma mem_importKeys {q : String} : q ∈ importKeys src v root ↔
    ∃ name, (name ∈ needs v root ∨ ∃ b ∈ src.contents, name ∈ needs v b) ∧
      v.qualifiedName name = q := by
  simp only [importKeys, List.mem_toFinset, List.mem_map, List.mem_append, List.mem_flatMap]

lemma bounded_start (src : FileSource) (strategy : ResolveStrategy) (searchPath : SearchPath)
    {names : List String} (h : v.imports root = .ok names) :
    Bounded v (importKeys src v root) (start v strategy searchPath names) where
  loaded_nodup := List.nodup_nil
  loaded_mem := fun q hq => nomatch hq
  pending_mem := by
    intro frame hf name hn hr
    cases List.mem_singleton.1 hf
    exact mem_importKeys.2 ⟨name, .inl ((mem_needs h).2 ⟨hn, hr⟩), rfl⟩
  height := Nat.le_refl 1

/-- Every step keeps the bounds. -/
theorem bounded_of_move {s t : State} (hs : Bounded v (importKeys src v root) s)
    (h : Move src v s t) : Bounded v (importKeys src v root) t := by
  have hheight := hs.height
  have hnodup := nodup_of_move h hs.loaded_nodup
  cases h with
  | leave rest hp =>
    rw [hp, List.length_cons] at hheight
    exact ⟨hnodup, hs.loaded_mem,
      fun frame hf => hs.pending_mem frame (hp ▸ List.mem_cons_of_mem _ hf), by dsimp only; omega⟩
  | skip name names rest hp hk =>
    rw [hp, List.length_cons] at hheight
    refine ⟨hnodup, hs.loaded_mem, fun frame hf n hn => ?_, hheight⟩
    rcases List.mem_cons.1 hf with rfl | hf
    · exact hs.pending_mem _ (hp ▸ List.mem_cons_self) n (List.mem_cons_of_mem _ hn)
    · exact hs.pending_mem frame (hp ▸ List.mem_cons_of_mem _ hf) n hn
  | load name names rest m resolver trace hp hr hn hf =>
    obtain ⟨-, hread, himports, -, -⟩ := fetch_eq_ok_iff.1 hf
    have hq : v.qualifiedName name ∈ importKeys src v root :=
      hs.pending_mem _ (hp ▸ List.mem_cons_self) name List.mem_cons_self hr
    rw [hp, List.length_cons] at hheight
    refine ⟨hnodup, fun q hq' => ?_, fun frame hfr n hn' hr' => ?_, ?_⟩
    · rw [← has_iff, has_enter, has_iff] at hq'
      rcases hq' with hq' | rfl
      · exact hs.loaded_mem q hq'
      · exact hq
    · rcases List.mem_cons.1 hfr with rfl | hfr
      · refine mem_importKeys.2 ⟨n, .inr ⟨m.bytes, src.mem_contents _ _ hread, ?_⟩, rfl⟩
        exact (mem_needs himports).2 ⟨hn', hr'⟩
      · rcases List.mem_cons.1 hfr with rfl | hfr
        · exact hs.pending_mem _ (hp ▸ List.mem_cons_self) n (List.mem_cons_of_mem _ hn') hr'
        · exact hs.pending_mem frame (hp ▸ List.mem_cons_of_mem _ hfr) n hn' hr'
    · simp only [State.enter, List.length_cons, List.length_append, List.length_nil]
      omega

lemma Bounded.length_loaded_le {keys : Finset String} {s : State} (h : Bounded v keys s) :
    s.loaded.modules.length ≤ keys.card := by
  rw [← List.length_map Prod.fst, ← List.toFinset_card_of_nodup h.loaded_nodup]
  exact Finset.card_le_card fun q hq => h.loaded_mem q (List.mem_toFinset.1 hq)

lemma growth_of_move {s t : State} (h : Move src v s t) :
    t.pending.length - s.pending.length + s.loaded.modules.length = t.loaded.modules.length := by
  cases h with
  | leave rest hp =>
    rw [hp]
    simp only [List.length_cons]
    omega
  | skip name names rest hp hk =>
    rw [hp]
    simp only [List.length_cons]
    omega
  | load name names rest m resolver trace hp hr hn hf =>
    rw [hp]
    simp only [State.enter, List.length_cons, List.length_append, List.length_nil]
    omega

/-- What is put on the stack has been loaded, so that together with what was loaded before there
are no more of it than names. -/
theorem pushes_le {s : State} {later : List State} {o : WalkOutcome}
    (hc : Course src v s later o) (hs : Bounded v (importKeys src v root) s) :
    pushes s later + s.loaded.modules.length ≤ (importKeys src v root).card := by
  induction hc with
  | stop h =>
    rw [pushes, Nat.zero_add]
    exact hs.length_loaded_le
  | move h _ ih =>
    have hmove := move_of_step h
    have hgrowth := growth_of_move hmove
    have hlater := ih (bounded_of_move hs hmove)
    rw [pushes]
    omega

lemma readFor_of_append {s : State} {name : String} {names : List String}
    {rest : List (List String)} (hp : s.pending = (name :: names) :: rest)
    (trace : List Consultation) : readFor v s (s.trace ++ trace) =
      (readings trace).map fun path => (v.qualifiedName name, path) := by
  simp only [readFor, hp, List.drop_left]

lemma readFor_self (s : State) : readFor v s s.trace = [] := by
  simp only [readFor, List.drop_length]
  split <;> rfl

lemma loaded_of_move {s t : State} (h : Move src v s t) :
    t.loaded.modules.map Prod.fst =
      s.loaded.modules.map Prod.fst ++ (readFor v s t.trace).map Prod.fst := by
  cases h with
  | leave rest hp => rw [readFor_self, List.map_nil, List.append_nil]
  | skip name names rest hp hk => rw [readFor_self, List.map_nil, List.append_nil]
  | load name names rest m resolver trace hp hr hn hf =>
    simp only [State.enter]
    rw [readFor_of_append hp, readings_of_fetch_ok hf, List.map_append]
    rfl

lemma nodup_of_stop {s : State} {o : WalkOutcome} (h : Stop src v s o)
    (hs : (s.loaded.modules.map Prod.fst).Nodup) :
    (s.loaded.modules.map Prod.fst ++ (readFor v s o.trace).map Prod.fst).Nodup := by
  cases h with
  | finished hp =>
    rw [readFor_self, List.map_nil, List.append_nil]
    exact hs
  | failed name names rest e resolver trace hp hr hn hf =>
    have hlen := length_readings_of_fetch_error hf
    rw [has_eq_false_iff] at hn
    rw [readFor_of_append hp]
    cases hreads : readings trace with
    | nil =>
      rw [List.map_nil, List.map_nil, List.append_nil]
      exact hs
    | cons path paths =>
      rw [hreads, List.length_cons] at hlen
      have hpaths : paths = [] := List.eq_nil_of_length_eq_zero (by omega)
      rw [hpaths, List.map_singleton, List.map_singleton, ← List.concat_eq_append]
      exact hs.concat hn

/-- What is read is read for names that are not loaded yet, and for no name twice. -/
theorem calls_nodup {s : State} {later : List State} {o : WalkOutcome}
    (hc : Course src v s later o) (hs : (s.loaded.modules.map Prod.fst).Nodup) :
    (s.loaded.modules.map Prod.fst ++ (calls v s later o).map Prod.fst).Nodup := by
  induction hc with
  | stop h => exact nodup_of_stop (stop_of_step h) hs
  | move h _ ih =>
    have hmove := move_of_step h
    rw [calls, List.map_append, ← List.append_assoc, ← loaded_of_move hmove]
    exact ih (nodup_of_move hmove hs)

/-- What is read for names is all that is read. -/
theorem calls_snd {s : State} {later : List State} {o : WalkOutcome}
    (hc : Course src v s later o) :
    readings o.trace = readings s.trace ++ (calls v s later o).map Prod.snd := by
  induction hc with
  | @stop s o h =>
    cases stop_of_step h with
    | finished hp => rw [calls, readFor_self, List.map_nil, List.append_nil]
    | failed name names rest e resolver trace hp hr hn hf =>
      rw [calls, readFor_of_append hp, readings_append, List.map_map]
      exact congrArg _ (List.map_id' _).symm
  | @move s t later o h _ ih =>
    rw [ih, calls, List.map_append, ← List.append_assoc]
    congr 1
    cases move_of_step h with
    | leave rest hp => rw [readFor_self, List.map_nil, List.append_nil]
    | skip name names rest hp hk => rw [readFor_self, List.map_nil, List.append_nil]
    | load name names rest m resolver trace hp hr hn hf =>
      simp only [State.enter]
      rw [readFor_of_append hp, readings_append, List.map_map]
      exact congrArg _ (List.map_id' _).symm

/-- Every walk ends. If the root can be scanned, the machine goes from its imports through finitely
many states; it puts no more frames on the stack than there are qualified names of imports, has no
more than these and the root's on it at any time, and reads for no qualified name twice. -/
theorem walk_ends_within_bounds (src : FileSource) (v : Conventions) (strategy : ResolveStrategy)
    (searchPath : SearchPath) (root : Bytes) :
    (∃ e, v.imports root = .error e ∧
      walk src v strategy searchPath root = ⟨.error (.malformed rootName e), []⟩) ∨
    ∃ names later, v.imports root = .ok names ∧
      Course src v (start v strategy searchPath names) later
        (walk src v strategy searchPath root) ∧
      pushes (start v strategy searchPath names) later ≤ (importKeys src v root).card ∧
      (∀ s ∈ start v strategy searchPath names :: later,
        s.pending.length ≤ (importKeys src v root).card + 1) ∧
      ((calls v (start v strategy searchPath names) later
        (walk src v strategy searchPath root)).map Prod.fst).Nodup ∧
      (calls v (start v strategy searchPath names) later
        (walk src v strategy searchPath root)).map Prod.snd =
          readings (walk src v strategy searchPath root).trace := by
  cases hroot : v.imports root with
  | error e => exact .inl ⟨e, rfl, walk_of_malformed hroot⟩
  | ok names =>
    obtain ⟨n, hruns⟩ := exists_runs_walk src strategy searchPath hroot
    obtain ⟨later, hc⟩ := exists_course hruns
    have hstart := bounded_start src strategy searchPath hroot
    refine .inr ⟨names, later, rfl, hc, pushes_le hc hstart, fun s hs => ?_,
      calls_nodup hc List.nodup_nil,
      (calls_snd hc).symm⟩
    have hbounded := forall_of_course (fun _ _ => bounded_of_move) hc hstart s hs
    exact hbounded.height.trans (Nat.succ_le_succ hbounded.length_loaded_le)

end WasmBundle.Proofs
