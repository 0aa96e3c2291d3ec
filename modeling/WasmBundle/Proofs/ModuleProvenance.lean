import WasmBundle.Proofs.WalkBounds

/-!
# Where the modules of a walk come from

A walk keeps its modules and the report of what it read in two lists. A step that loads adds one
entry to the end of each and no other step touches them, so in every state of a walk the entries at
one position belong together: the module was read from the reported path, for the import that
resolved to it. `Aligned` says so with the states gone through before, among which is the one in
which that import was next.
-/

namespace WasmBundle.Proofs
open Walk

section Provenance

variable (src : FileSource) (v : Conventions)

/-- In the state the name is next and no module has its qualified name; it resolves to the path,
where the bytes of the module are read, and they can be scanned. -/
structure Provides (s : State) (name : String) (m : String × Bytes) (path : Path) : Prop where
  next : ∃ names rest, s.pending = (name :: names) :: rest
  external : v.isRuntime name = false
  registered : m.1 = v.qualifiedName name
  fresh : s.has m.1 = false
  resolved : (s.resolver.resolve src name).answer = .ok (some path)
  read : src.read path = .ok m.2
  scanned : ∃ names, v.imports m.2 = .ok names

/-- There are as many modules as reported paths. The module at a position was provided from the path
at that position, in one of the states before, which had as many modules as the position says. -/
structure Aligned (before : List State) (s : State) : Prop where
  length_eq : s.loaded.modules.length = s.loaded.report.length
  provided : ∀ i m path, s.loaded.modules[i]? = some m → s.loaded.report[i]? = some path →
    ∃ t ∈ before, ∃ name, t.loaded.modules.length = i ∧ Provides src v t name m path

/-- What is loaded stays where it is: the second state only has more behind it. -/
def Keeps (s t : State) : Prop :=
  s.loaded.modules <+: t.loaded.modules ∧ s.loaded.report <+: t.loaded.report

end Provenance

variable {src : FileSource} {v : Conventions} {s t u : State} {before after later : List State}
  {o : WalkOutcome}

lemma provides_of_fetch {name : String} {names : List String} {rest : List (List String)}
    {m : Fetched} {resolver : Resolver} {trace : List Consultation}
    (hp : s.pending = (name :: names) :: rest) (hr : v.isRuntime name = false)
    (hn : s.has (v.qualifiedName name) = false)
    (hf : fetch src v s.resolver name (v.qualifiedName name) = (.ok m, resolver, trace)) :
    Provides src v s name (v.qualifiedName name, m.bytes) m.path := by
  obtain ⟨hresolved, hread, hscanned, -, -⟩ := fetch_eq_ok_iff.1 hf
  exact ⟨⟨names, rest, hp⟩, hr, rfl, hn, hresolved, hread, ⟨m.imports, hscanned⟩⟩

lemma Aligned.of_loaded_eq (hs : Aligned src v before s) (h : t.loaded = s.loaded)
    (hsub : before ⊆ after) : Aligned src v after t where
  length_eq := h ▸ hs.length_eq
  provided := by
    intro i m path hm hpath
    rw [h] at hm hpath
    obtain ⟨u, hu, hprovided⟩ := hs.provided i m path hm hpath
    exact ⟨u, hsub hu, hprovided⟩

theorem aligned_of_move (hs : Aligned src v before s) (h : Move src v s t) :
    Aligned src v (before ++ [s]) t := by
  have hsub : before ⊆ before ++ [s] := List.subset_append_left _ _
  cases h with
  | leave rest hp => exact hs.of_loaded_eq rfl hsub
  | skip name names rest hp hk => exact hs.of_loaded_eq rfl hsub
  | load name names rest m resolver trace hp hr hn hf =>
    have hlen := hs.length_eq
    refine ⟨?_, fun i module path hm hpath => ?_⟩
    · simp only [State.enter, List.length_append, List.length_singleton, hlen]
    · simp only [State.enter] at hm hpath
      -- An entry was there before, or it is the new one at the end of both lists.
      rcases Nat.lt_trichotomy i s.loaded.modules.length with hi | hi | hi
      · rw [List.getElem?_append_left hi] at hm
        rw [List.getElem?_append_left (hlen ▸ hi)] at hpath
        obtain ⟨u, hu, hprovided⟩ := hs.provided i module path hm hpath
        exact ⟨u, hsub hu, hprovided⟩
      · rw [hi, List.getElem?_concat_length] at hm
        rw [hi, hlen, List.getElem?_concat_length] at hpath
        cases hm
        cases hpath
        exact ⟨s, List.mem_concat_self, name, hi.symm, provides_of_fetch hp hr hn hf⟩
      · rw [List.getElem?_eq_none (by simpa using hi)] at hm
        cases hm

lemma keeps_of_move (h : Move src v s t) : Keeps s t := by
  cases h with
  | leave rest hp => exact ⟨List.prefix_rfl, List.prefix_rfl⟩
  | skip name names rest hp hk => exact ⟨List.prefix_rfl, List.prefix_rfl⟩
  | load name names rest m resolver trace hp hr hn hf =>
    exact ⟨List.prefix_append _ _, List.prefix_append _ _⟩

lemma Keeps.trans (hst : Keeps s t) (htu : Keeps t u) : Keeps s u :=
  ⟨hst.1.trans htu.1, hst.2.trans htu.2⟩

/-- No state that comes later has lost anything or has it elsewhere. -/
theorem keeps_of_course (hc : Course src v s later o) : ∀ t ∈ later, Keeps s t := by
  induction hc with
  | stop h => exact fun t ht => nomatch ht
  | move h _ ih =>
    have hkeeps := keeps_of_move (move_of_step h)
    intro u hu
    rcases List.mem_cons.1 hu with rfl | hu
    · exact hkeeps
    · exact hkeeps.trans (ih u hu)

/-- What every step keeps, of a state and of those before it, holds wherever a course is split, and
the course goes on from there. -/
theorem course_split {P : List State → State → Prop}
    (hstep : ∀ before s t, P before s → Move src v s t → P (before ++ [s]) t)
    {earlier : List State} (hc : Course src v s later o) (hs : P earlier s) :
    ∀ before t after, s :: later = before ++ t :: after →
      P (earlier ++ before) t ∧ Course src v t after o := by
  -- Every step adds a state to those gone through before, so these are general.
  induction hc generalizing earlier with
  | stop hstop =>
    intro before t after h
    cases before with
    | nil =>
      cases h
      rw [List.append_nil]
      exact ⟨hs, .stop hstop⟩
    | cons _ before => exact absurd (List.cons.inj h).2.symm (by simp)
  | move hmove hc ih =>
    intro before t after h
    cases before with
    | nil =>
      cases h
      rw [List.append_nil]
      exact ⟨hs, .move hmove hc⟩
    | cons _ before =>
      obtain ⟨rfl, hlater⟩ := List.cons.inj h
      rw [List.append_cons]
      exact ih (hstep _ _ _ hs (move_of_step hmove)) before t after hlater

lemma exists_last_of_course {r : Resolution} (hc : Course src v s later o)
    (hok : o.answer = .ok r) : ∃ before t, s :: later = before ++ [t] ∧ t.loaded = r := by
  induction hc with
  | @stop s o h =>
    refine ⟨[], s, rfl, ?_⟩
    cases stop_of_step h with
    | finished hp => exact Except.ok.inj hok
    | failed => cases hok
  | @move s _ _ _ _ _ ih =>
    obtain ⟨before, t, hsplit, hloaded⟩ := ih hok
    exact ⟨s :: before, t, by rw [hsplit, List.cons_append], hloaded⟩

lemma aligned_start (src : FileSource) (v : Conventions) (strategy : ResolveStrategy)
    (searchPath : SearchPath) (names : List String) :
    Aligned src v [] (start v strategy searchPath names) where
  length_eq := rfl
  provided := by
    intro i m path hm
    cases hm

/-- Zipping modules and report of an aligned state loses neither a module nor a path, and pairs each
module with the path it was provided from. -/
lemma Aligned.zip (h : Aligned src v before s) :
    (s.loaded.modules.zip s.loaded.report).map Prod.fst = s.loaded.modules ∧
    (s.loaded.modules.zip s.loaded.report).map Prod.snd = s.loaded.report ∧
    ∀ entry ∈ s.loaded.modules.zip s.loaded.report, ∃ t ∈ before, ∃ name,
      Provides src v t name entry.1 entry.2 := by
  refine ⟨List.map_fst_zip h.length_eq.le, List.map_snd_zip h.length_eq.ge, fun entry hentry => ?_⟩
  obtain ⟨i, hi⟩ := List.mem_iff_getElem?.1 hentry
  obtain ⟨hm, hpath⟩ := List.getElem?_zip_eq_some.1 hi
  obtain ⟨t, ht, name, -, hprovides⟩ := h.provided i _ _ hm hpath
  exact ⟨t, ht, name, hprovides⟩

/-- In every state of a walk the modules and the report have the same length, the module at each
position was read from the path at that position, for an import that resolved to it and under the
qualified name of that import, and can be scanned; no two modules have one name, and every later
state has the same modules and paths at the same positions. A walk that succeeds gives what its last
state has, so zipping the two lists pairs every module with the artifact it was read from. -/
theorem modules_aligned_with_report (src : FileSource) (v : Conventions)
    (strategy : ResolveStrategy) (searchPath : SearchPath) (root : Bytes) :
    (∃ e, v.imports root = .error e ∧
      walk src v strategy searchPath root = ⟨.error (.malformed rootName e), []⟩) ∨
    ∃ names later, v.imports root = .ok names ∧
      Course src v (start v strategy searchPath names) later
        (walk src v strategy searchPath root) ∧
      (∀ before s after, start v strategy searchPath names :: later = before ++ s :: after →
        Aligned src v before s ∧ (s.loaded.modules.map Prod.fst).Nodup ∧
          ∀ t ∈ after, Keeps s t) ∧
      ∀ r, (walk src v strategy searchPath root).answer = .ok r →
        (∃ before s, start v strategy searchPath names :: later = before ++ [s] ∧ s.loaded = r) ∧
        (r.modules.zip r.report).map Prod.fst = r.modules ∧
        (r.modules.zip r.report).map Prod.snd = r.report ∧
        ∀ entry ∈ r.modules.zip r.report, ∃ s ∈ start v strategy searchPath names :: later,
          ∃ name, Provides src v s name entry.1 entry.2 := by
  cases hroot : v.imports root with
  | error e => exact .inl ⟨e, rfl, walk_of_malformed hroot⟩
  | ok names =>
    obtain ⟨n, hruns⟩ := exists_runs_walk src strategy searchPath hroot
    obtain ⟨later, hc⟩ := exists_course hruns
    have hsplit := course_split
      (P := fun before s => Aligned src v before s ∧ (s.loaded.modules.map Prod.fst).Nodup)
      (fun _ _ _ hs hmove => ⟨aligned_of_move hs.1 hmove, nodup_of_move hmove hs.2⟩) hc
      ⟨aligned_start src v strategy searchPath names, List.nodup_nil⟩
    refine .inr ⟨names, later, rfl, hc, fun before s after h => ?_, fun r hok => ?_⟩
    · obtain ⟨⟨haligned, hnodup⟩, hafter⟩ := hsplit before s after h
      exact ⟨haligned, hnodup, keeps_of_course hafter⟩
    · obtain ⟨before, t, h, rfl⟩ := exists_last_of_course hc hok
      obtain ⟨hmodules, hreport, hentries⟩ := (hsplit before t [] h).1.1.zip
      refine ⟨⟨before, t, h, rfl⟩, hmodules, hreport, fun entry hentry => ?_⟩
      obtain ⟨s, hs, hprovides⟩ := hentries entry hentry
      exact ⟨s, h ▸ List.mem_append_left _ hs, hprovides⟩

end WasmBundle.Proofs
