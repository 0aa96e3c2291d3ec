import WasmBundle.Proofs.WalkClosure
import WasmBundle.Proofs.WalkQuestions

/-!
# What a walk depends on

A probing walk knows its source only by the answers to its questions. Another source that answers
the questions of one walk alike makes the machine take the same steps, so that the walk over it asks
the same questions and ends alike.
-/

namespace WasmBundle.Proofs
open Walk

/-- The second source answers the questions of the trace as the first one does. -/
structure AnswersAlike (src src' : FileSource) (trace : List Consultation) : Prop where
  probes : ∀ p ∈ probes trace, src'.isFile p = src.isFile p
  readings : ∀ p ∈ readings trace, src'.read p = src.read p

variable {src src' : FileSource} {v : Conventions} {searchPath : SearchPath}

lemma AnswersAlike.of_subset {trace part : List Consultation} (h : AnswersAlike src src' trace)
    (hs : part ⊆ trace) : AnswersAlike src src' part where
  probes p hp := h.probes p (mem_probes.2 (hs (mem_probes.1 hp)))
  readings p hp := h.readings p (mem_readings.2 (hs (mem_readings.1 hp)))

lemma resolve_congr {r : Resolver} (hr : r.strategy = .probe) {name : String}
    (h : AnswersAlike src src' (r.resolve src name).trace) :
    r.resolve src' name = r.resolve src name := by
  have hprobes := h.probes
  rw [resolve_probe src hr] at hprobes ⊢
  rw [probes_map_probe] at hprobes
  obtain ⟨hthrough, hfind⟩ := throughFirst_congr hprobes
  rw [resolve_probe src' hr, hthrough, hfind]

/-- What is fetched depends on the answers to the questions of the fetch. -/
theorem fetch_congr {r r' : Resolver} (hr : r.strategy = .probe) {name qualified : String}
    {answer : Except WalkError Fetched} {trace : List Consultation}
    (hf : fetch src v r name qualified = (answer, r', trace)) (h : AnswersAlike src src' trace) :
    fetch src' v r name qualified = (answer, r', trace) := by
  have htrace : (fetch src v r name qualified).2.2 = trace := by rw [hf]
  rw [← htrace] at h
  rw [← hf]
  have hsub : (r.resolve src name).trace ⊆ (fetch src v r name qualified).2.2 := by
    simp only [fetch]
    split
    · exact fun _ => id
    · exact fun _ => id
    · exact List.subset_append_left _ _
  have hresolve := resolve_congr hr (h.of_subset hsub)
  cases ha : (r.resolve src name).answer with
  | error e => simp only [fetch, hresolve, ha]
  | ok found =>
    cases found with
    | none => simp only [fetch, hresolve, ha]
    | some path =>
      have hread : src'.read path = src.read path := by
        refine h.readings path (mem_readings.2 ?_)
        simp only [fetch, ha]
        exact List.mem_append_right _ (List.mem_singleton_self _)
      simp only [fetch, hresolve, ha, hread]

lemma strategy_of_fetch {r r' : Resolver} (hr : r.strategy = .probe) {name qualified : String}
    {m : Fetched} {trace : List Consultation}
    (h : fetch src v r name qualified = (.ok m, r', trace)) : r'.strategy = .probe := by
  obtain ⟨-, -, -, hafter, -⟩ := fetch_eq_ok_iff.1 h
  rw [resolve_probe src hr] at hafter
  rw [← hafter, hr]

lemma move_congr {s t : State} (hr : s.resolver.strategy = .probe) (hm : Move src v s t)
    (h : AnswersAlike src src' t.trace) : Move src' v s t ∧ t.resolver.strategy = .probe := by
  cases hm with
  | leave rest hp => exact ⟨.leave rest hp, hr⟩
  | skip name names rest hp hk => exact ⟨.skip name names rest hp hk, hr⟩
  | load name names rest m resolver trace hp hrun hn hf =>
    have hsame := fetch_congr hr hf (h.of_subset (List.subset_append_right s.trace trace))
    exact ⟨.load name names rest m resolver trace hp hrun hn hsame, strategy_of_fetch hr hf⟩

lemma stop_congr {s : State} {o : WalkOutcome} (hr : s.resolver.strategy = .probe)
    (hs : Stop src v s o) (h : AnswersAlike src src' o.trace) : Stop src' v s o := by
  cases hs with
  | finished hp => exact .finished hp
  | failed name names rest e resolver trace hp hrun hn hf =>
    have hsame := fetch_congr hr hf (h.of_subset (List.subset_append_right s.trace trace))
    exact .failed name names rest e resolver trace hp hrun hn hsame

/-- A run over one source is a run over any source that answers its questions alike. -/
theorem runs_congr {n : Nat} {s : State} {o : WalkOutcome} (hr : s.resolver.strategy = .probe)
    (hruns : Runs src v n s o) (h : AnswersAlike src src' o.trace) : Runs src' v n s o := by
  induction hruns with
  | stop hs => exact .stop (stop_congr hr hs h)
  | move hm hruns ih =>
    obtain ⟨hm', hr'⟩ := move_congr hr hm (h.of_subset (trace_prefix_of_runs hruns).subset)
    exact .move hm' (ih hr' h)

lemma walk_congr {root : Bytes}
    (h : AnswersAlike src src' (walk src v .probe searchPath root).trace) :
    walk src' v .probe searchPath root = walk src v .probe searchPath root := by
  cases hroot : v.imports root with
  | error e => rw [walk_of_malformed hroot, walk_of_malformed hroot]
  | ok names =>
    obtain ⟨n, hruns⟩ := exists_runs_walk src .probe searchPath hroot
    exact walk_eq_of_runs hroot (runs_congr rfl hruns h)

/-- A probing walk over a source that gives the same answers to its questions has the same outcome
and asks the same questions. So where a walk that succeeded no longer gives the same, an artifact of
its report has other bytes, or a path it has probed has appeared or vanished. -/
theorem walk_determined_by_answers (src src' : FileSource) (v : Conventions)
    (searchPath : SearchPath) (root : Bytes) :
    ((∀ p ∈ probes (walk src v .probe searchPath root).trace, src'.isFile p = src.isFile p) →
      (∀ p ∈ readings (walk src v .probe searchPath root).trace, src'.read p = src.read p) →
      walk src' v .probe searchPath root = walk src v .probe searchPath root) ∧
    ∀ r, (walk src v .probe searchPath root).answer = .ok r →
      (walk src' v .probe searchPath root).answer ≠ .ok r →
      (∃ p ∈ r.report, src'.read p ≠ src.read p) ∨
        ∃ p ∈ probes (walk src v .probe searchPath root).trace, src'.isFile p ≠ src.isFile p := by
  refine ⟨fun hprobes hreadings => walk_congr ⟨hprobes, hreadings⟩, fun r hok hdiff => ?_⟩
  by_contra hsame
  push Not at hsame
  obtain ⟨hreadings, hprobes⟩ := hsame
  rw [report_eq_readings hok] at hreadings
  rw [walk_congr ⟨hprobes, hreadings⟩] at hdiff
  exact hdiff hok

/-- What the walk over the store in which `a` imports itself has loaded. -/
def selfImported : Resolution := ⟨[("GRAIN$MODULE$a", importingA)], ["lib/a.gr.wasm"]⟩

lemma walk_selfImporting : walk selfImporting.source unmarked .probe sourceThenLib importingA =
    ⟨.ok selfImported, [.probe "src/a.gr.wasm", .probe "lib/a.gr.wasm",
      .reading "lib/a.gr.wasm"]⟩ := by
  refine walk_eq_of_runs imports_importingA
    (.move (.load "a" [] [] ⟨"lib/a.gr.wasm", importingA, ["a"]⟩ _ _ rfl (by decide) (by decide)
      (fetch_eq_ok_iff.2 ⟨by decide, by decide, imports_importingA, rfl, rfl⟩))
    (.move (.skip "a" [] [[]] rfl (.inr (by decide))) (.move (.leave [[]] rfl)
    (.move (.leave [] rfl) (.stop (.finished rfl))))))

/-- A store that has the file of the other one under another spelling, and more files. -/
def crowded : Store := Store.ofList
  [("lib/./a.gr.wasm", importingA), ("lib/b.gr.wasm", []), ("other/a.gr.wasm", [0])]

lemma walk_empty_store :
    (walk ({} : Store).source unmarked .probe sourceThenLib importingA).answer =
      .error (.unresolved "a") := by
  refine congrArg WalkOutcome.answer (walk_eq_of_runs imports_importingA
    (.stop (.failed "a" [] [] (.unresolved "a") _ _ rfl (by decide) (by decide) rfl)))

/-- The files that are not asked for do not matter, and where the walk fails one that is asked for
is missing. -/
theorem walk_determined_by_answers_self_import :
    walk crowded.source unmarked .probe sourceThenLib importingA =
      walk selfImporting.source unmarked .probe sourceThenLib importingA ∧
    ((∃ p ∈ selfImported.report,
        ({} : Store).source.read p ≠ selfImporting.source.read p) ∨
      ∃ p ∈ probes (walk selfImporting.source unmarked .probe sourceThenLib importingA).trace,
        ({} : Store).source.isFile p ≠ selfImporting.source.isFile p) := by
  constructor
  · refine (walk_determined_by_answers selfImporting.source crowded.source unmarked sourceThenLib
      importingA).1 ?_ ?_
    · rw [walk_selfImporting]
      decide
    · rw [walk_selfImporting]
      decide
  · refine (walk_determined_by_answers selfImporting.source ({} : Store).source unmarked
      sourceThenLib importingA).2 selfImported (by rw [walk_selfImporting]) ?_
    rw [walk_empty_store]
    exact fun h => nomatch h

end WasmBundle.Proofs
