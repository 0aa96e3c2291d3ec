import WasmBundle.Proofs.NameResolution
import WasmBundle.Proofs.WalkSteps

/-!
# What a walk asks

The trace of a walk only grows. Resolving a name reads no file and fetching a module reads at most
one, so the files a walk has read are those of its report, and at its end perhaps one more, which
could not be read or scanned.
-/

namespace WasmBundle.Proofs
open Walk

/-- The paths asked for their content, in order. -/
def readings (trace : List Consultation) : List Path :=
  trace.filterMap fun
    | .reading p => some p
    | _ => none

lemma probes_append (a b : List Consultation) : probes (a ++ b) = probes a ++ probes b :=
  List.filterMap_append

lemma probes_map_probe (paths : List Path) : probes (paths.map .probe) = paths := by
  rw [probes, List.filterMap_map]
  exact List.filterMap_some

lemma readings_append (a b : List Consultation) : readings (a ++ b) = readings a ++ readings b :=
  List.filterMap_append

/-- The paths of the questions of one kind are those in such a question. -/
lemma mem_filterMap_iff {kind : Path → Consultation} {path? : Consultation → Option Path}
    (h : ∀ c p, path? c = some p ↔ c = kind p) {trace : List Consultation} {p : Path} :
    p ∈ trace.filterMap path? ↔ kind p ∈ trace := by
  simp only [List.mem_filterMap, h, exists_eq_right]

lemma mem_readings {trace : List Consultation} {p : Path} :
    p ∈ readings trace ↔ .reading p ∈ trace :=
  mem_filterMap_iff fun c p => by cases c <;> simp

lemma mem_probes {trace : List Consultation} {p : Path} :
    p ∈ probes trace ↔ .probe p ∈ trace :=
  mem_filterMap_iff fun c p => by cases c <;> simp

variable {src : FileSource} {v : Conventions}

lemma readings_map_probe (paths : List Path) : readings (paths.map .probe) = [] := by
  simp [readings, List.filterMap_map]

/-- Resolving a name reads no file. -/
theorem readings_resolve (src : FileSource) (r : Resolver) (name : String) :
    readings (r.resolve src name).trace = [] := by
  cases hr : r.strategy with
  | probe => rw [resolve_probe src hr, readings_map_probe]
  | index =>
    rw [resolve_eq_lookupRoots src hr]
    refine List.eq_nil_iff_forall_not_mem.2 fun p hp => ?_
    obtain ⟨dir, hdir⟩ := listing_of_mem_lookupRoots (mem_readings.1 hp)
    cases hdir

/-- A module that is fetched is read once, and nothing else is read for it. -/
theorem readings_of_fetch_ok {r r' : Resolver} {name qualified : String} {m : Fetched}
    {trace : List Consultation} (h : fetch src v r name qualified = (.ok m, r', trace)) :
    readings trace = [m.path] := by
  obtain ⟨-, -, -, -, rfl⟩ := fetch_eq_ok_iff.1 h
  rw [readings_append, readings_resolve]
  rfl

/-- Where fetching fails, at most one file has been read. -/
theorem length_readings_of_fetch_error {r r' : Resolver} {name qualified : String} {e : WalkError}
    {trace : List Consultation} (h : fetch src v r name qualified = (.error e, r', trace)) :
    (readings trace).length ≤ 1 := by
  have hresolve := readings_resolve src r name
  simp only [fetch] at h
  split at h
  · cases h
    rw [hresolve]
    exact Nat.zero_le 1
  · cases h
    rw [hresolve]
    exact Nat.zero_le 1
  · simp only [Prod.mk.injEq] at h
    obtain ⟨-, -, rfl⟩ := h
    rw [readings_append, hresolve]
    exact Nat.le_refl 1

lemma trace_prefix_of_move {s t : State} (h : Move src v s t) : s.trace <+: t.trace := by
  cases h with
  | leave rest hp => exact List.prefix_refl _
  | skip name names rest hp hk => exact List.prefix_refl _
  | load name names rest m resolver trace hp hr hn hf => exact List.prefix_append _ _

lemma trace_prefix_of_stop {s : State} {o : WalkOutcome} (h : Stop src v s o) :
    s.trace <+: o.trace := by
  cases h with
  | finished hp => exact List.prefix_refl _
  | failed name names rest e resolver trace hp hr hn hf => exact List.prefix_append _ _

/-- What has been asked on the way is in the trace of the outcome. -/
theorem trace_prefix_of_runs {n : Nat} {s : State} {o : WalkOutcome} (h : Runs src v n s o) :
    s.trace <+: o.trace := by
  induction h with
  | stop h => exact trace_prefix_of_stop h
  | move h _ ih => exact (trace_prefix_of_move h).trans ih

lemma report_of_move {s t : State} (h : Move src v s t)
    (hs : s.loaded.report = readings s.trace) : t.loaded.report = readings t.trace := by
  cases h with
  | leave rest hp => exact hs
  | skip name names rest hp hk => exact hs
  | load name names rest m resolver trace hp hr hn hf =>
    simp only [State.enter, readings_append, hs, readings_of_fetch_ok hf]

/-- The report of a walk that succeeds lists what it has read. -/
theorem report_eq_readings {strategy : ResolveStrategy} {searchPath : SearchPath} {root : Bytes}
    {r : Resolution} (hok : (walk src v strategy searchPath root).answer = .ok r) :
    r.report = readings (walk src v strategy searchPath root).trace := by
  obtain ⟨s, hs, -, rfl, htrace⟩ :=
    exists_finished (P := fun s => s.loaded.report = readings s.trace)
    (fun _ _ hs h => report_of_move h hs) (fun _ _ => rfl) hok
  rw [htrace, hs]

end WasmBundle.Proofs
