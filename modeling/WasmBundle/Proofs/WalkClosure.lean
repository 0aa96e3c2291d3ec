import Mathlib
import WasmBundle.Proofs.BinarySections
import WasmBundle.Proofs.NameResolution
import WasmBundle.Proofs.WalkSteps
import WasmBundle.Store

/-!
# What a walk loads

`Reach` is the least set of import names that holds what the root needs and what every artifact of
a name in it needs. A probing walk succeeds exactly when all of them can be loaded, and then it has
loaded them and nothing else. The invariant `Covering` keeps every needed name either loaded or
pending, so a name that is skipped because its key is present is never lost.
-/

namespace WasmBundle.Proofs
open Walk

/-- The imports of a binary that have to be found as artifacts, none if it is malformed. -/
def needs (v : Conventions) (b : Bytes) : List String :=
  (scanned v b).filter fun name => !v.isRuntime name

section Reach

variable (src : FileSource) (v : Conventions) (searchPath : SearchPath) (root : Bytes)

/-- The bytes of the artifact an import name resolves to, if there is one and it can be read. -/
def artifact? (name : String) : Option Bytes :=
  ((candidates searchPath v.artifactExtension name).find? src.isFile).bind fun path =>
    (src.read path).toOption

/-- The name resolves to an artifact that can be read and scanned. -/
def Loadable (name : String) : Prop :=
  ∃ b names, artifact? src v searchPath name = some b ∧ v.imports b = .ok names

/-- The names needed by the root, directly or through the artifacts of other names. -/
inductive Reach : String → Prop
  | root {name : String} (h : name ∈ needs v root) : Reach name
  | dependency {user name : String} {b : Bytes} (hu : Reach user)
      (hb : artifact? src v searchPath user = some b) (h : name ∈ needs v b) : Reach name

/-- The name is loaded or still to be handled. -/
def Covered (s : State) (name : String) : Prop :=
  s.has (v.qualifiedName name) = true ∨ ∃ frame ∈ s.pending, name ∈ frame

/-- What every state of a probing walk satisfies. -/
structure Covering (s : State) : Prop where
  resolver : s.resolver =
    { searchPath := searchPath, extension := v.artifactExtension, strategy := .probe }
  keys_nodup : (s.loaded.modules.map Prod.fst).Nodup
  pending_reach : ∀ frame ∈ s.pending, ∀ name ∈ frame, v.isRuntime name = false →
    Reach src v searchPath root name
  loaded_reach : ∀ q b, (q, b) ∈ s.loaded.modules → ∃ name, Reach src v searchPath root name ∧
    v.qualifiedName name = q ∧ artifact? src v searchPath name = some b ∧
      ∃ names, v.imports b = .ok names
  root_covered : ∀ name ∈ needs v root, Covered v s name
  loaded_covered : ∀ q b, (q, b) ∈ s.loaded.modules → ∀ name ∈ needs v b, Covered v s name

end Reach

/-- What the root and the loaded modules need is loaded or still to be handled. -/
structure Pursuing (v : Conventions) (root : Bytes) (s : State) : Prop where
  root : ∀ name ∈ needs v root, Covered v s name
  loaded : ∀ q b, (q, b) ∈ s.loaded.modules → ∀ name ∈ needs v b, Covered v s name

variable {src : FileSource} {v : Conventions} {searchPath : SearchPath} {root : Bytes}

lemma mem_needs {b : Bytes} {names : List String} (h : v.imports b = .ok names) {name : String} :
    name ∈ needs v b ↔ name ∈ names ∧ v.isRuntime name = false := by
  simp only [needs, scanned, h, List.mem_filter, Bool.not_eq_true']

lemma runtime_of_mem_needs {b : Bytes} {name : String} (h : name ∈ needs v b) :
    v.isRuntime name = false := by
  simpa using (List.mem_filter.1 h).2

lemma covered_of_move {s t : State} {name : String} (hr : v.isRuntime name = false)
    (hc : Covered v s name) (h : Move src v s t) : Covered v t name := by
  cases h with
  | leave rest hp =>
    refine hc.imp id ?_
    rintro ⟨frame, hf, hn⟩
    rw [hp] at hf
    rcases List.mem_cons.1 hf with rfl | hf
    · cases hn
    · exact ⟨frame, hf, hn⟩
  | skip head names rest hp hk =>
    rcases hc with hc | ⟨frame, hf, hn⟩
    · exact .inl hc
    · rw [hp] at hf
      rcases List.mem_cons.1 hf with rfl | hf
      · rcases List.mem_cons.1 hn with rfl | hn
        · have hk := hk.resolve_left (by simp [hr])
          exact .inl hk
        · exact .inr ⟨names, List.mem_cons_self, hn⟩
      · exact .inr ⟨frame, List.mem_cons_of_mem _ hf, hn⟩
  | load head names rest m resolver trace hp _ _ _ =>
    rcases hc with hc | ⟨frame, hf, hn⟩
    · exact .inl ((has_enter ..).2 (.inl hc))
    · rw [hp] at hf
      rcases List.mem_cons.1 hf with rfl | hf
      · rcases List.mem_cons.1 hn with rfl | hn
        · exact .inl ((has_enter ..).2 (.inr rfl))
        · exact .inr ⟨names, List.mem_cons_of_mem _ List.mem_cons_self, hn⟩
      · exact .inr ⟨frame, List.mem_cons_of_mem _ (List.mem_cons_of_mem _ hf), hn⟩

lemma artifact_of_fetch {r r' : Resolver} {name qualified : String} {m : Fetched}
    {trace : List Consultation} (hr : r =
      { searchPath := searchPath, extension := v.artifactExtension, strategy := .probe })
    (hf : fetch src v r name qualified = (.ok m, r', trace)) :
    artifact? src v searchPath name = some m.bytes ∧ v.imports m.bytes = .ok m.imports ∧
      r' = r := by
  obtain ⟨hpath, hbytes, himports, hres, -⟩ := fetch_eq_ok_iff.1 hf
  have hprobe := resolve_probe src (r := r) (by rw [hr]) name
  rw [hprobe] at hpath hres
  subst hr
  have hfound : (candidates searchPath v.artifactExtension name).find? src.isFile = some m.path :=
    Except.ok.inj hpath
  refine ⟨?_, himports, hres.symm⟩
  simp only [artifact?, hfound, Option.bind_some, hbytes, Except.toOption]

lemma not_loadable_of_fetch {r r' : Resolver} {name qualified : String} {e : WalkError}
    {trace : List Consultation} (hr : r =
      { searchPath := searchPath, extension := v.artifactExtension, strategy := .probe })
    (hf : fetch src v r name qualified = (.error e, r', trace)) :
    ¬Loadable src v searchPath name := by
  rintro ⟨b, names, hb, himports⟩
  obtain ⟨path, hpath, hread⟩ := Option.bind_eq_some_iff.1 hb
  have hbytes : src.read path = .ok b := by
    cases h : src.read path with
    | error e => simp [h, Except.toOption] at hread
    | ok b' => simpa [h, Except.toOption] using hread
  have hprobe := resolve_probe src (r := r) (by rw [hr]) name
  have hans : (r.resolve src name).answer = .ok (some path) := by
    rw [hprobe, hr, ← hpath]
  have hok : fetch src v r name qualified = (.ok ⟨path, b, names⟩, _, _) :=
    fetch_eq_ok_iff.2 ⟨hans, hbytes, himports, rfl, rfl⟩
  rw [hf] at hok
  cases hok

lemma pursuing_start {strategy : ResolveStrategy} {names : List String}
    (h : v.imports root = .ok names) : Pursuing v root (start v strategy searchPath names) where
  root _ hn := .inr ⟨names, List.mem_singleton_self names, ((mem_needs h).1 hn).1⟩
  loaded _ _ hb := nomatch hb

/-- Under either strategy no step loses a name that is needed. -/
theorem pursuing_of_move {s t : State} (hs : Pursuing v root s) (h : Move src v s t) :
    Pursuing v root t := by
  have hroot : ∀ name ∈ needs v root, Covered v t name := fun name hn =>
    covered_of_move (runtime_of_mem_needs hn) (hs.root name hn) h
  have hloaded : ∀ q b, (q, b) ∈ s.loaded.modules → ∀ name ∈ needs v b, Covered v t name :=
    fun q b hb name hn => covered_of_move (runtime_of_mem_needs hn) (hs.loaded q b hb name hn) h
  cases h with
  | leave rest hp => exact ⟨hroot, hloaded⟩
  | skip name names rest hp hk => exact ⟨hroot, hloaded⟩
  | load name names rest m resolver trace hp hr hn hf =>
    obtain ⟨-, -, himports, -, -⟩ := fetch_eq_ok_iff.1 hf
    refine ⟨hroot, fun q b hb n hn' => ?_⟩
    rcases List.mem_append.1 hb with hb | hb
    · exact hloaded q b hb n hn'
    · cases List.mem_singleton.1 hb
      exact .inr ⟨m.imports, List.mem_cons_self, ((mem_needs himports).1 hn').1⟩

lemma covering_start {names : List String} (h : v.imports root = .ok names) :
    Covering src v searchPath root (start v .probe searchPath names) where
  resolver := rfl
  keys_nodup := List.nodup_nil
  pending_reach := by
    intro frame hf name hn hr
    cases List.mem_singleton.1 hf
    exact .root ((mem_needs h).2 ⟨hn, hr⟩)
  loaded_reach := by
    intro q b hb
    cases hb
  root_covered := (pursuing_start h).root
  loaded_covered := (pursuing_start h).loaded

/-- Every step keeps the invariant. -/
theorem covering_of_move {s t : State} (hs : Covering src v searchPath root s)
    (h : Move src v s t) : Covering src v searchPath root t := by
  obtain ⟨hroot, hloaded⟩ := pursuing_of_move ⟨hs.root_covered, hs.loaded_covered⟩ h
  have hkeys := nodup_of_move h hs.keys_nodup
  cases h with
  | leave rest hp =>
    refine ⟨hs.resolver, hkeys, ?_, hs.loaded_reach, hroot, hloaded⟩
    intro frame hf
    exact hs.pending_reach frame (hp ▸ List.mem_cons_of_mem _ hf)
  | skip name names rest hp hk =>
    refine ⟨hs.resolver, hkeys, ?_, hs.loaded_reach, hroot, hloaded⟩
    intro frame hf n hn
    rcases List.mem_cons.1 hf with rfl | hf
    · exact hs.pending_reach _ (hp ▸ List.mem_cons_self) n (List.mem_cons_of_mem _ hn)
    · exact hs.pending_reach frame (hp ▸ List.mem_cons_of_mem _ hf) n hn
  | load name names rest m resolver trace hp hr hn hf =>
    obtain ⟨hart, himports, hres⟩ := artifact_of_fetch hs.resolver hf
    have hreach : Reach src v searchPath root name :=
      hs.pending_reach _ (hp ▸ List.mem_cons_self) name List.mem_cons_self hr
    refine ⟨hres.trans hs.resolver, hkeys, ?_, ?_, hroot, hloaded⟩
    · intro frame hfr n hn' hr'
      rcases List.mem_cons.1 hfr with rfl | hfr
      · exact .dependency hreach hart ((mem_needs himports).2 ⟨hn', hr'⟩)
      · rcases List.mem_cons.1 hfr with rfl | hfr
        · exact hs.pending_reach _ (hp ▸ List.mem_cons_self) n (List.mem_cons_of_mem _ hn') hr'
        · exact hs.pending_reach frame (hp ▸ List.mem_cons_of_mem _ hfr) n hn' hr'
    · intro q b hb
      rcases List.mem_append.1 hb with hb | hb
      · exact hs.loaded_reach q b hb
      · cases List.mem_singleton.1 hb
        exact ⟨name, hreach, rfl, hart, m.imports, himports⟩

lemma has_of_covered {s : State} {name : String} (hp : s.pending = [])
    (hc : Covered v s name) : s.has (v.qualifiedName name) = true := by
  rcases hc with hc | ⟨frame, hf, -⟩
  · exact hc
  · rw [hp] at hf
    cases hf

/-- Nothing is missing where nothing is pending. -/
theorem loaded_of_reach (hinj : Function.Injective v.qualifiedName) {s : State}
    (hs : Covering src v searchPath root s) (hp : s.pending = []) {name : String}
    (h : Reach src v searchPath root name) :
    ∃ b, artifact? src v searchPath name = some b ∧
      (v.qualifiedName name, b) ∈ s.loaded.modules ∧ ∃ names, v.imports b = .ok names := by
  have hhas : s.has (v.qualifiedName name) = true := by
    induction h with
    | root hn => exact has_of_covered hp (hs.root_covered _ hn)
    | dependency hu hb hn ih =>
      obtain ⟨⟨q, b'⟩, hm, hq⟩ := List.mem_map.1 ((has_iff ..).1 ih)
      obtain ⟨user', -, hq', hart, -⟩ := hs.loaded_reach q b' hm
      cases hinj (hq'.trans hq)
      cases hb.symm.trans hart
      exact has_of_covered hp (hs.loaded_covered q _ hm _ hn)
  obtain ⟨⟨q, b⟩, hm, hq⟩ := List.mem_map.1 ((has_iff ..).1 hhas)
  obtain ⟨name', -, hq', hart, hscan⟩ := hs.loaded_reach q b hm
  cases hinj (hq'.trans hq)
  exact ⟨b, hart, hq ▸ hm, hscan⟩

lemma lookup_of_mem {l : List (String × Bytes)} {q : String} {b : Bytes}
    (hd : (l.map Prod.fst).Nodup) (h : (q, b) ∈ l) : l.lookup q = some b := by
  induction l with
  | nil => cases h
  | cons e l ih =>
    obtain ⟨hne, hd⟩ := List.nodup_cons.1 hd
    rcases List.mem_cons.1 h with rfl | h
    · simp
    · have hq : q ≠ e.1 := by
        rintro rfl
        exact hne (List.mem_map.2 ⟨_, h, rfl⟩)
      rw [List.lookup_cons, beq_eq_false_iff_ne.2 hq]
      exact ih hd h

/-- The three ways in which a probing walk can end. -/
theorem probe_walk_cases (src : FileSource) (v : Conventions) (searchPath : SearchPath)
    (root : Bytes) :
    (∃ e, v.imports root = .error e ∧
      walk src v .probe searchPath root = ⟨.error (.malformed rootName e), []⟩) ∨
    (∃ name e trace, Reach src v searchPath root name ∧ ¬Loadable src v searchPath name ∧
      walk src v .probe searchPath root = ⟨.error e, trace⟩) ∨
    ∃ s names, Covering src v searchPath root s ∧ s.pending = [] ∧ v.imports root = .ok names ∧
      walk src v .probe searchPath root = ⟨.ok s.loaded, s.trace⟩ := by
  cases hroot : v.imports root with
  | error e => exact .inl ⟨e, rfl, walk_of_malformed hroot⟩
  | ok names =>
    obtain ⟨n, hruns⟩ := exists_runs_walk src .probe searchPath hroot
    obtain ⟨s, hs, hstop⟩ := exists_stop (fun _ _ => covering_of_move) hruns
      (covering_start hroot)
    generalize walk src v .probe searchPath root = o at hstop
    cases hstop with
    | finished hp => exact .inr (.inr ⟨s, names, hs, hp, rfl, rfl⟩)
    | failed name names' rest e resolver trace hp hr hn hf =>
      have hreach : Reach src v searchPath root name :=
        hs.pending_reach _ (hp ▸ List.mem_cons_self) name List.mem_cons_self hr
      exact .inr (.inl ⟨name, e, _, hreach, not_loadable_of_fetch hs.resolver hf, rfl⟩)

/-- A probing walk succeeds exactly when the root and every name it reaches can be scanned. What it
has loaded then are the artifacts of these names, each once under its qualified name. Whatever the
root or a loaded module needs is among them. -/
theorem probe_walk_closure (src : FileSource) (v : Conventions) (searchPath : SearchPath)
    (root : Bytes) (hinj : Function.Injective v.qualifiedName) :
    ((∃ r, (walk src v .probe searchPath root).answer = .ok r) ↔
      (∃ names, v.imports root = .ok names) ∧
        ∀ name, Reach src v searchPath root name → Loadable src v searchPath name) ∧
    ∀ r, (walk src v .probe searchPath root).answer = .ok r →
      (r.modules.map Prod.fst).Nodup ∧
      (∀ q, q ∈ r.modules.map Prod.fst ↔
        ∃ name, Reach src v searchPath root name ∧ v.qualifiedName name = q) ∧
      (∀ name, Reach src v searchPath root name → ∃ b, artifact? src v searchPath name = some b ∧
        r.modules.lookup (v.qualifiedName name) = some b) ∧
      (∀ name ∈ needs v root, v.qualifiedName name ∈ r.modules.map Prod.fst) ∧
      ∀ q b, (q, b) ∈ r.modules → ∀ name ∈ needs v b,
        v.qualifiedName name ∈ r.modules.map Prod.fst := by
  rcases probe_walk_cases src v searchPath root with
    ⟨e, hroot, hw⟩ | ⟨name, e, trace, hreach, hnot, hw⟩ | ⟨s, names, hs, hp, hroot, hw⟩
  · rw [hw, hroot]
    simp
  · rw [hw]
    refine ⟨⟨?_, fun h => absurd (h.2 name hreach) hnot⟩, ?_⟩
    · rintro ⟨r, hok⟩
      cases hok
    · intro r hok
      cases hok
  · have hall := fun name (h : Reach src v searchPath root name) => loaded_of_reach hinj hs hp h
    rw [hw]
    refine ⟨⟨fun _ => ⟨⟨names, hroot⟩, fun name h => ?_⟩, fun _ => ⟨_, rfl⟩⟩, ?_⟩
    · obtain ⟨b, hart, -, names', hscan⟩ := hall name h
      exact ⟨b, names', hart, hscan⟩
    · intro r hok
      cases hok
      refine ⟨hs.keys_nodup, fun q => ⟨fun hq => ?_, ?_⟩, fun name h => ?_, fun name h => ?_,
        fun q b hb name h => ?_⟩
      · obtain ⟨⟨q', b⟩, hm, rfl⟩ := List.mem_map.1 hq
        obtain ⟨name, hreach, hname, -⟩ := hs.loaded_reach q' b hm
        exact ⟨name, hreach, hname⟩
      · rintro ⟨name, hreach, rfl⟩
        obtain ⟨b, -, hm, -⟩ := hall name hreach
        exact List.mem_map_of_mem (f := Prod.fst) hm
      · obtain ⟨b, hart, hm, -⟩ := hall name h
        exact ⟨b, hart, lookup_of_mem hs.keys_nodup hm⟩
      · exact (has_iff ..).1 (has_of_covered hp (hs.root_covered name h))
      · exact (has_iff ..).1 (has_of_covered hp (hs.loaded_covered q b hb name h))

/-- A binary whose only import is from `a`. -/
def importingA : Bytes := [0, 0x61, 0x73, 0x6d, 1, 0, 0, 0, 2, 7, 1, 1, 0x61, 1, 0x66, 0, 0]

/-- A store in which `a` imports itself. -/
def selfImporting : Store := Store.ofList [("lib/a.gr.wasm", importingA)]

/-- A search path whose first root has nothing. -/
def sourceThenLib : SearchPath := .ofList ["src", "lib/"]

/-- Conventions under which every name gets the prefix. -/
def unmarked : Conventions := { stdlibMarker := "" }

lemma imports_importingA : unmarked.imports importingA = .ok ["a"] := by
  have hheader : Wasm.Reader.header (.start importingA) =
      .ok (.module, ⟨8, [2, 7, 1, 1, 0x61, 1, 0x66, 0, 0]⟩) := by decide
  have hhead : Wasm.Reader.sectionHead none ⟨8, [2, 7, 1, 1, 0x61, 1, 0x66, 0, 0]⟩ =
      .ok ((2, 7), ⟨10, [1, 1, 0x61, 1, 0x66, 0, 0]⟩) := by cbv
  have hbody : (Wasm.content .module 2).namespaces 7 ⟨10, [1, 1, 0x61, 1, 0x66, 0, 0]⟩ =
      .ok ["a"] := by cbv
  have hspaces : Wasm.namespaces importingA = .ok ["a"] := by
    rw [namespaces_of_header hheader, sections_of_plain (by simp) hhead (by decide), hbody,
      sections_of_empty (by decide)]
    rfl
  rw [Conventions.imports, hspaces]
  rfl

lemma mem_needs_importingA {name : String} : name ∈ needs unmarked importingA ↔ name = "a" := by
  rw [mem_needs imports_importingA, List.mem_singleton]
  constructor
  · exact fun h => h.1
  · rintro rfl
    decide

lemma artifact_selfImporting :
    artifact? selfImporting.source unmarked sourceThenLib "a" = some importingA := by decide

lemma loadable_selfImporting {name : String}
    (h : Reach selfImporting.source unmarked sourceThenLib importingA name) :
    Loadable selfImporting.source unmarked sourceThenLib name := by
  have hname : name = "a" := by
    induction h with
    | root h => exact mem_needs_importingA.1 h
    | dependency hu hb h ih =>
      subst ih
      cases artifact_selfImporting.symm.trans hb
      exact mem_needs_importingA.1 h
  rw [hname]
  exact ⟨importingA, ["a"], artifact_selfImporting, imports_importingA⟩

lemma injective_unmarked : Function.Injective unmarked.qualifiedName := by
  intro a b h
  simpa [unmarked, Conventions.qualifiedName, Conventions.isExternalStdlib] using h

theorem probe_walk_closure_self_import :
    Function.Injective unmarked.qualifiedName ∧
      ∃ r, (walk selfImporting.source unmarked .probe sourceThenLib importingA).answer = .ok r ∧
        r.modules.lookup "GRAIN$MODULE$a" = some importingA := by
  obtain ⟨hiff, hall⟩ := probe_walk_closure selfImporting.source unmarked sourceThenLib importingA
    injective_unmarked
  obtain ⟨r, hr⟩ := hiff.2 ⟨⟨_, imports_importingA⟩, fun _ => loadable_selfImporting⟩
  obtain ⟨-, -, hlookup, -, -⟩ := hall r hr
  obtain ⟨b, hb, hl⟩ := hlookup "a" (.root (mem_needs_importingA.2 rfl))
  cases artifact_selfImporting.symm.trans hb
  exact ⟨injective_unmarked, r, hr, hl⟩

end WasmBundle.Proofs
