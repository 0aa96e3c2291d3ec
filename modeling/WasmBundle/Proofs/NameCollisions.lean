import WasmBundle.Proofs.ImportSections
import WasmBundle.Proofs.WalkClosure
import WasmBundle.Proofs.WalkSteps

/-!
# When qualified names collide

A name that bears the marker keeps its name, any other gets the prefix. Two names can only meet
where the prefix brings the marker about: the marker stands in the prefix, or it begins in the
prefix and goes on in the name. Where that cannot happen, the names under which modules are loaded
tell which imports they were loaded for, so that a walk passes over an import only if its own module
is there.
-/

namespace WasmBundle.Proofs
open Walk

lemma occursIn_iff {part text : List Char} : occursIn part text = true ↔ part <:+: text := by
  induction text with
  | nil => rw [occursIn, List.isEmpty_iff, List.infix_nil]
  | cons c r ih =>
    rw [occursIn, Bool.or_eq_true, List.isPrefixOf_iff_prefix, ih, List.infix_cons_iff]

variable {v : Conventions}

lemma isExternalStdlib_iff {name : String} :
    v.isExternalStdlib name = true ↔
      v.stdlibMarker ≠ "" ∧ v.stdlibMarker.toList <:+: name.toList := by
  rw [Conventions.isExternalStdlib, Bool.and_eq_true, occursIn_iff, Bool.not_eq_true',
    List.isEmpty_eq_false_iff, Ne, String.toList_eq_nil_iff]

lemma qualifiedName_of_marked {name : String} (h : v.isExternalStdlib name = true) :
    v.qualifiedName name = name :=
  if_pos h

lemma qualifiedName_of_unmarked {name : String} (h : ¬v.isExternalStdlib name = true) :
    v.qualifiedName name = v.modulePrefix ++ name :=
  if_neg h

lemma isExternalStdlib_of_length_lt {name : String}
    (h : name.toList.length < v.stdlibMarker.toList.length) : v.isExternalStdlib name = false := by
  rw [← Bool.not_eq_true, isExternalStdlib_iff]
  rintro ⟨-, hinfix⟩
  exact absurd hinfix.length_le (Nat.not_le.2 h)

/-- Without the marker the name does not bear it, but behind the prefix it does. -/
def Acquires (v : Conventions) (name : String) : Prop :=
  v.isExternalStdlib name = false ∧ v.isExternalStdlib (v.modulePrefix ++ name) = true

/-- The marker stands in the prefix, or a part of it that ends the prefix begins it. -/
def Overlaps (v : Conventions) : Prop :=
  v.stdlibMarker.toList <:+: v.modulePrefix.toList ∨
    ∃ s, s ≠ [] ∧ s <:+ v.modulePrefix.toList ∧ s <+: v.stdlibMarker.toList

/-- A name that keeps its name meets one that gets the prefix only if that one acquires the marker.
-/
lemma eq_of_marked_of_unmarked (h : v.modulePrefix = "" ∨ ∀ name, ¬Acquires v name) {a b : String}
    (ha : v.isExternalStdlib a = true) (hb : ¬v.isExternalStdlib b = true)
    (hab : v.qualifiedName a = v.qualifiedName b) : a = b := by
  rw [qualifiedName_of_marked ha, qualifiedName_of_unmarked hb] at hab
  rcases h with hempty | hnone
  · rwa [hempty, String.empty_append] at hab
  · exact absurd ⟨by simpa using hb, hab ▸ ha⟩ (hnone b)

/-- Names collide exactly when one of them acquires the marker and so comes to the other. -/
theorem injective_iff_acquires : Function.Injective v.qualifiedName ↔
    v.modulePrefix = "" ∨ ∀ name, ¬Acquires v name := by
  constructor
  · intro hinj
    by_contra hboth
    push Not at hboth
    obtain ⟨hsome, name, hplain, hmarked⟩ := hboth
    have hsame : v.qualifiedName (v.modulePrefix ++ name) = v.qualifiedName name := by
      rw [qualifiedName_of_marked hmarked, qualifiedName_of_unmarked (by simp [hplain])]
    exact hsome (String.append_eq_right_iff.1 (hinj hsame))
  · intro h a b hab
    by_cases ha : v.isExternalStdlib a = true <;> by_cases hb : v.isExternalStdlib b = true
    · rwa [qualifiedName_of_marked ha, qualifiedName_of_marked hb] at hab
    · exact eq_of_marked_of_unmarked h ha hb hab
    · exact (eq_of_marked_of_unmarked h hb ha hab.symm).symm
    · rw [qualifiedName_of_unmarked ha, qualifiedName_of_unmarked hb] at hab
      exact (String.append_right_inj v.modulePrefix).1 hab

/-- A part of the marker that the name completes is enough, and nothing else brings it about. -/
theorem exists_acquires_iff (hm : v.stdlibMarker ≠ "") :
    (∃ name, Acquires v name) ↔ Overlaps v := by
  constructor
  · rintro ⟨name, hplain, hmarked⟩
    have hnot : ¬v.stdlibMarker.toList <:+: name.toList := fun h => by
      rw [isExternalStdlib_iff.2 ⟨hm, h⟩] at hplain
      cases hplain
    have hinfix := (isExternalStdlib_iff.1 hmarked).2
    rw [String.toList_append, List.infix_append_iff] at hinfix
    -- The marker is in the prefix, in the name, or across the place where they meet.
    rcases hinfix with hinside | hname | ⟨s, t, hst, hs, ht⟩
    · exact .inl hinside
    · exact absurd hname hnot
    · refine .inr ⟨s, ?_, hs, hst ▸ List.prefix_append s t⟩
      rintro rfl
      exact hnot (hst ▸ ht.isInfix)
  · rintro (hinside | ⟨s, hne, hs, t, ht⟩)
    · refine ⟨"", isExternalStdlib_of_length_lt ?_, isExternalStdlib_iff.2 ⟨hm, ?_⟩⟩
      · exact List.length_pos_iff.2 fun h => hm (String.toList_eq_nil_iff.1 h)
      · rwa [String.append_empty]
    · -- The rest of the marker is too short to bear the marker itself.
      refine ⟨String.ofList t, isExternalStdlib_of_length_lt ?_, isExternalStdlib_iff.2 ⟨hm, ?_⟩⟩
      · rw [String.toList_ofList, ← ht, List.length_append]
        have hpos := List.length_pos_iff.2 hne
        omega
      · rw [String.toList_append, String.toList_ofList, List.infix_append_iff]
        exact .inr (.inr ⟨s, t, ht.symm, hs, List.prefix_refl t⟩)

/-- Names do not collide exactly when prefix and marker cannot meet. -/
theorem injective_iff_not_overlaps : Function.Injective v.qualifiedName ↔
    v.modulePrefix = "" ∨ v.stdlibMarker = "" ∨ ¬Overlaps v := by
  rw [injective_iff_acquires]
  by_cases hm : v.stdlibMarker = ""
  · have hnone : ∀ name, ¬Acquires v name := fun name h => (isExternalStdlib_iff.1 h.2).1 hm
    simp [hm, hnone]
  · rw [← exists_acquires_iff hm, not_exists, or_iff_right hm]

lemma not_overlaps_iff : ¬Overlaps v ↔
    ¬v.stdlibMarker.toList <:+: v.modulePrefix.toList ∧
      ∀ s, s ≠ [] → s <:+ v.modulePrefix.toList → ¬s <+: v.stdlibMarker.toList := by
  simp only [Overlaps, not_or, not_exists, not_and]

lemma injective_standard : Function.Injective ({} : Conventions).qualifiedName := by
  refine injective_iff_not_overlaps.2 (.inr (.inr (not_overlaps_iff.2 ⟨by decide, ?_⟩)))
  rintro s hne ⟨front, hs⟩ hbegins
  obtain ⟨init, last, rfl⟩ := (List.eq_nil_or_concat s).resolve_left hne
  have hlast : ({} : Conventions).modulePrefix.toList.getLast? = some last := by
    rw [← hs, List.concat_eq_append, ← List.append_assoc, List.getLast?_concat]
  have hmem : last ∈ ({} : Conventions).stdlibMarker.toList := hbegins.subset (by simp)
  cases hlast.symm.trans (show _ = some '$' by decide)
  exact absurd hmem (by decide)

/-- Where names do not collide, a qualified name is loaded if and only if the name itself is one for
which a module has been loaded. -/
lemma has_iff_mem_log (hinj : Function.Injective v.qualifiedName) {strategy : ResolveStrategy}
    {searchPath : SearchPath} {names log : List String} {t : State}
    (h : Reaches src v (start v strategy searchPath names) log t) (name : String) :
    t.has (v.qualifiedName name) = true ↔ name ∈ log := by
  rw [has_iff, h.map_modules]
  exact List.mem_map_of_injective hinj

/-- Different names have different qualified names exactly when there is no prefix, no marker, or no
way in which the marker can begin in the prefix; so it is with the standard prefix and marker. A
walk then passes over an import as loaded only where a module has been loaded for that very import.
-/
theorem qualified_names_differ_iff (v : Conventions) :
    (Function.Injective v.qualifiedName ↔
      v.modulePrefix = "" ∨ v.stdlibMarker = "" ∨
        ¬v.stdlibMarker.toList <:+: v.modulePrefix.toList ∧
          ∀ s, s ≠ [] → s <:+ v.modulePrefix.toList → ¬s <+: v.stdlibMarker.toList) ∧
    Function.Injective ({} : Conventions).qualifiedName ∧
    (Function.Injective v.qualifiedName →
      ∀ (src : FileSource) (strategy : ResolveStrategy) (searchPath : SearchPath) (root : Bytes)
        (names : List String), v.imports root = .ok names →
        (∃ log t, Reaches src v (start v strategy searchPath names) log t ∧
          Stop src v t (walk src v strategy searchPath root)) ∧
        ∀ log t, Reaches src v (start v strategy searchPath names) log t →
          ∀ name, t.has (v.qualifiedName name) = true ↔ name ∈ log) := by
  refine ⟨?_, injective_standard, fun hinj src strategy searchPath root names hroot => ?_⟩
  · rw [injective_iff_not_overlaps, not_overlaps_iff]
  · exact ⟨exists_reaches_stop src strategy searchPath hroot,
      fun log t h => has_iff_mem_log hinj h⟩

/-- A prefix that ends as the marker begins lets two names meet. -/
example : let v : Conventions := { modulePrefix := "my-std", stdlibMarker := "stdlib" }
    v.qualifiedName "lib" = v.qualifiedName "my-stdlib" := by decide

/-- A binary that imports a name with the marker and one without it. -/
def importingBoth : Bytes :=
  binary [.imports [⟨"stdlib-external/a", "f", .function 0⟩, ⟨"GRAIN$MODULE$a", "f", .function 0⟩]]

/-- A store that has artifacts of both names. -/
def bothStored : Store := Store.ofList
  [("lib/a.gr.wasm", binary []), ("lib/stdlib-external/a.gr.wasm", importingBoth)]

lemma imports_importingBoth :
    ({} : Conventions).imports importingBoth = .ok ["stdlib-external/a", "a"] :=
  (imports_binary {} (by decide)).trans (congrArg Except.ok (by decide))

/-- A module that imports itself is not loaded again, and the other one is not taken for it. -/
theorem qualified_names_differ_iff_self_import :
    Function.Injective ({} : Conventions).qualifiedName ∧
    ∃ t, Reaches bothStored.source {} (start {} .probe sourceThenLib ["stdlib-external/a", "a"])
        ["stdlib-external/a"] t ∧
      t.pending = [["stdlib-external/a", "a"], ["a"]] ∧
      t.has "stdlib-external/a" = true ∧ t.has "GRAIN$MODULE$a" = false := by
  obtain ⟨-, hinj, hwalk⟩ := qualified_names_differ_iff {}
  obtain ⟨-, hlog⟩ :=
    hwalk hinj bothStored.source .probe sourceThenLib importingBoth _ imports_importingBoth
  have hstart : Reaches bothStored.source {}
      (start {} .probe sourceThenLib ["stdlib-external/a", "a"]) []
      (start {} .probe sourceThenLib ["stdlib-external/a", "a"]) := .refl
  have hreach := hstart.load "stdlib-external/a" ["a"] []
    ⟨"lib/stdlib-external/a.gr.wasm", importingBoth, ["stdlib-external/a", "a"]⟩ _ _ rfl
    (by decide) (by decide)
    (fetch_eq_ok_iff.2 ⟨by decide, by decide, imports_importingBoth, rfl, rfl⟩)
  have hother := mt (hlog _ _ hreach "a").1 (by decide)
  exact ⟨hinj, _, hreach, rfl, (hlog _ _ hreach "stdlib-external/a").2 (by decide),
    Bool.eq_false_iff.2 hother⟩

end WasmBundle.Proofs
