import WasmBundle.Proofs.BinarySections

/-!
# Modules that are cut off

What a section holds does not depend on the sections around it, so a module cut off after a section
has the imports of the sections that are left. Cut off anywhere else it has none: some reader, of
the header, of a size or of a body, meets the end where it needs more bytes, and what was read
before is dropped with the fault.
-/

namespace WasmBundle.Proofs
open Wasm Wasm.Reader

/-- The bytes of a module with the sections. -/
def rawBinary (version : UInt8 × UInt8) (ss : List RawSection) : Bytes :=
  rawHeader version ++ ss.flatMap RawSection.bytes

/-- The reader meets the end of every proper prefix of the bytes. -/
def RunsOut {α : Type} (m : Reader α) (b : Bytes) : Prop :=
  ∀ start, ∀ k < b.length, ∃ offset, m ⟨start, b.take k⟩ = .error ⟨.unexpectedEnd, offset⟩

theorem runsOut_numberField (format : IntegerFormat) {width n : Nat} {field : Bytes}
    (h : NumberField field n) (hlen : 7 * field.length < width + 7) :
    RunsOut (unsigned format width) field := by
  induction h generalizing width with
  | last hb =>
    intro start k hk
    cases Nat.lt_one_iff.1 hk
    exact ⟨start, by rw [unsigned]; rfl⟩
  | @more b field n hb h ih =>
    have hpos := h.length_pos
    rw [List.length_cons] at hlen
    intro start k hk
    cases k with
    | zero => exact ⟨start, by rw [unsigned]; rfl⟩
    | succ k =>
      have hrest : RunsOut (unsigned format (width - 7)) field := ih (by omega)
      obtain ⟨offset, hoffset⟩ := hrest (start + 1) k (Nat.lt_of_succ_lt_succ hk)
      have hwidth : ¬width ≤ 7 := by omega
      refine ⟨offset, ?_⟩
      rw [unsigned]
      simp only [List.take_succ_cons, hwidth, dite_false, hoffset]
      rw [if_neg (Nat.not_lt.2 hb)]

/-- A header that is cut off has a part of the magic bytes, or these and a part of the version. -/
lemma runsOut_header (version : UInt8 × UInt8) : RunsOut header (rawHeader version) := by
  intro start k hk
  have hhas : ∀ n, (⟨start, (rawHeader version).take k⟩ : Cursor).has n = decide (n ≤ k) := by
    intro n
    rw [Bool.eq_iff_iff, Cursor.has_iff, List.length_take, Nat.min_eq_left (Nat.le_of_lt hk),
      decide_eq_true_iff]
  have hshort : ¬8 ≤ k := Nat.not_le.2 hk
  by_cases hfour : 4 ≤ k
  · have hmagic : ((rawHeader version).take k).take 4 = Wasm.magic := by
      rw [List.take_take, Nat.min_eq_left hfour]
      rfl
    refine ⟨start + 4, ?_⟩
    simp only [header, hhas, hfour, hshort, hmagic, decide_true, decide_false, Bool.not_true,
      Bool.not_false, Bool.false_eq_true, ne_eq, not_true_eq_false, ite_true, ite_false]
  · refine ⟨start, ?_⟩
    simp only [header, hhas, hfour, decide_false, Bool.not_false, ite_true]

section Sections

variable {s : RawSection} {here : List String}

lemma runsOut_sectionHead (hs : s.Framed) (hid : ¬0x80 ≤ s.id) :
    RunsOut (sectionHead none) s.head := by
  have hgroups := hs.groups
  have hsize : RunsOut u32 s.size := runsOut_numberField .unsigned32 hs.size (by omega)
  intro start k hk
  cases k with
  | zero => exact ⟨start, rfl⟩
  | succ k =>
    obtain ⟨offset, hoffset⟩ := hsize (start + 1) k (Nat.lt_of_succ_lt_succ hk)
    refine ⟨offset, ?_⟩
    simp only [RawSection.head, List.take_succ_cons, sectionHead, hid, ite_false, hoffset]

lemma sections_of_cut (h : Holds s here) (start : Nat) {k : Nat} (hpos : k ≠ 0)
    (hk : k < s.bytes.length) : ∃ offset,
      sections .module none ⟨start, s.bytes.take k⟩ = .error ⟨.unexpectedEnd, offset⟩ := by
  rw [RawSection.bytes, List.length_append] at hk
  have hne : s.head.take k ≠ [] := by
    obtain ⟨j, rfl⟩ := Nat.exists_eq_succ_of_ne_zero hpos
    exact List.cons_ne_nil _ _
  by_cases hhead : k < s.head.length
  · obtain ⟨offset, hoffset⟩ := runsOut_sectionHead h.framed h.id start k hhead
    rw [RawSection.bytes, List.take_append_of_le_length (Nat.le_of_lt hhead)]
    exact ⟨offset, sections_of_fault hne hoffset⟩
  · -- The head is whole and says that the body has more bytes than are left of it.
    have hshort : (⟨start + s.head.length, s.body.take (k - s.head.length)⟩ : Cursor).has
        s.body.length = false := by
      rw [Bool.eq_false_iff, ne_eq, Cursor.has_iff, List.length_take]
      omega
    rw [RawSection.bytes, List.take_append, List.take_of_length_le (Nat.not_lt.1 hhead),
      sections_head h.framed h.id, namespaces_of_short h.standalone hshort]
    exact ⟨_, rfl⟩

lemma holds_of_namespaces (hs : s.Framed) (hid : ¬0x80 ≤ s.id) (hcode : s.id ≠ 10) {start : Nat}
    {rest : Bytes}
    (h : (content .module s.id).namespaces s.body.length ⟨start, s.body ++ rest⟩ = .ok here) :
    Holds s here := by
  have hstandalone := standalone_content hcode
  rw [namespaces_append hstandalone] at h
  refine ⟨hs, hid, hstandalone, fun start' rest' => ?_⟩
  rw [namespaces_append hstandalone]
  exact namespaces_anywhere hstandalone start' h

variable {ss : List RawSection} {spaces : List (List String)}

/-- Each of the sections holds something if all of them can be read. -/
theorem exists_holds (hs : ∀ s ∈ ss, s.Framed) (hcode : ∀ s ∈ ss, s.id ≠ 10) {start : Nat}
    {names : List String}
    (h : sections .module none ⟨start, ss.flatMap RawSection.bytes⟩ = .ok names) :
    ∃ spaces, List.Forall₂ Holds ss spaces := by
  induction ss generalizing start names with
  | nil => exact ⟨[], .nil⟩
  | cons s ss ih =>
    have hframed := hs s List.mem_cons_self
    rw [List.flatMap_cons, RawSection.bytes, List.append_assoc] at h
    have hid : ¬0x80 ≤ s.id := by
      intro hid
      have hhead : sectionHead none ⟨start, s.head ++ (s.body ++ ss.flatMap RawSection.bytes)⟩ =
          .error ⟨.sectionId, start⟩ := by
        simp only [RawSection.head, List.cons_append, sectionHead, hid, ite_true]
      cases h.symm.trans (sections_of_fault (List.cons_ne_nil _ _) hhead)
    rw [sections_head hframed hid, List.drop_left] at h
    cases hhere : (content .module s.id).namespaces s.body.length
        ⟨start + s.head.length, s.body ++ ss.flatMap RawSection.bytes⟩ with
    | error e =>
      rw [hhere] at h
      cases h
    | ok here =>
      have hholds := holds_of_namespaces hframed hid (hcode s List.mem_cons_self) hhere
      cases hlater : sections .module none
          ⟨start + s.head.length + s.body.length, ss.flatMap RawSection.bytes⟩ with
      | error e =>
        rw [hhere, hlater] at h
        cases h
      | ok later =>
        obtain ⟨spaces, hspaces⟩ := ih (fun t ht => hs t (List.mem_cons_of_mem _ ht))
          (fun t ht => hcode t (List.mem_cons_of_mem _ ht)) hlater
        exact ⟨here :: spaces, .cons hholds hspaces⟩

/-- Sections that are cut off, but not between two of them, give a fault. -/
theorem sections_of_cut_within (h : List.Forall₂ Holds ss spaces) {k : Nat}
    (hk : k < (ss.flatMap RawSection.bytes).length)
    (hcut : ∀ n, k ≠ ((ss.take n).flatMap RawSection.bytes).length) (start : Nat) : ∃ offset,
      sections .module none ⟨start, (ss.flatMap RawSection.bytes).take k⟩ =
        .error ⟨.unexpectedEnd, offset⟩ := by
  induction h generalizing k start with
  | nil => exact absurd hk (Nat.not_lt_zero _)
  | @cons s here ss spaces hhere _ ih =>
    rw [List.flatMap_cons, List.length_append] at hk
    rw [List.flatMap_cons]
    -- The cut is in the first section, or as far into those behind it as it is behind the first.
    rcases Nat.lt_or_ge k s.bytes.length with hlt | hge
    · rw [List.take_append_of_le_length (Nat.le_of_lt hlt)]
      exact sections_of_cut hhere start (hcut 0) hlt
    · obtain ⟨j, rfl⟩ := Nat.exists_eq_add_of_le hge
      have hcut' : ∀ n, j ≠ ((ss.take n).flatMap RawSection.bytes).length := by
        intro n hn
        refine hcut (n + 1) ?_
        rw [List.take_succ_cons, List.flatMap_cons, List.length_append, hn]
      obtain ⟨offset, hoffset⟩ := ih (by omega) hcut' (start + s.bytes.length)
      refine ⟨offset, ?_⟩
      rw [List.take_append, List.take_of_length_le hge, Nat.add_sub_cancel_left,
        sections_bytes hhere, hoffset]
      rfl

end Sections

lemma namespaces_rawHeader (version : UInt8 × UInt8) (b : Bytes) :
    namespaces (rawHeader version ++ b) = sections .module none ⟨8, b⟩ :=
  namespaces_of_header (takes_header version 0 b)

lemma namespaces_rawBinary (version : UInt8 × UInt8) {ss : List RawSection}
    {spaces : List (List String)} (h : List.Forall₂ Holds ss spaces) :
    namespaces (rawBinary version ss) = .ok spaces.flatten := by
  rw [rawBinary, namespaces_rawHeader, sections_of_holds h]

theorem namespaces_of_cut (version : UInt8 × UInt8) {ss : List RawSection}
    {spaces : List (List String)} (h : List.Forall₂ Holds ss spaces) {k : Nat}
    (hk : k < (rawBinary version ss).length)
    (hcut : ∀ n, k ≠ (rawBinary version (ss.take n)).length) :
    ∃ offset, namespaces ((rawBinary version ss).take k) = .error ⟨.unexpectedEnd, offset⟩ := by
  have hlength : ∀ ts : List RawSection, (rawBinary version ts).length =
      (rawHeader version).length + (ts.flatMap RawSection.bytes).length :=
    fun ts => List.length_append
  rw [hlength] at hk
  rcases Nat.lt_or_ge k (rawHeader version).length with hlt | hge
  · obtain ⟨offset, hoffset⟩ := runsOut_header version 0 k hlt
    refine ⟨offset, ?_⟩
    rw [rawBinary, List.take_append_of_le_length (Nat.le_of_lt hlt), namespaces, Cursor.start,
      hoffset]
  · obtain ⟨j, rfl⟩ := Nat.exists_eq_add_of_le hge
    have hcut' : ∀ n, j ≠ ((ss.take n).flatMap RawSection.bytes).length := by
      intro n hn
      exact hcut n (by rw [hlength, hn])
    obtain ⟨offset, hoffset⟩ := sections_of_cut_within h (by omega) hcut' 8
    refine ⟨offset, ?_⟩
    rw [rawBinary, List.take_append, List.take_of_length_le hge, Nat.add_sub_cancel_left,
      namespaces_rawHeader, hoffset]

/-- Cut off after the header or a section, a module is the one with the sections before. -/
lemma take_rawBinary (version : UInt8 × UInt8) (ss : List RawSection) (n : Nat) :
    (rawBinary version ss).take (rawBinary version (ss.take n)).length =
      rawBinary version (ss.take n) := by
  have hsplit : rawBinary version ss =
      rawBinary version (ss.take n) ++ (ss.drop n).flatMap RawSection.bytes := by
    rw [rawBinary, rawBinary, List.append_assoc, ← List.flatMap_append, List.take_append_drop]
  rw [hsplit, List.take_left]

lemma imports_of_namespaces (v : Conventions) {b : Bytes} {spaces : List String}
    (h : namespaces b = .ok spaces) :
    v.imports b = .ok (spaces.map v.stripPrefix).eraseDups := by
  rw [Conventions.imports, h]
  rfl

/-- A module of sections other than code, which scans, has the imports that its sections have one by
one. A proper prefix of it scans exactly if it ends after the header or after a section, and then
gives the imports of the sections before its end; every other prefix gives the fault that the bytes
end too early, whatever the sections before hold. -/
theorem imports_of_cut_binary (v : Conventions) (version : UInt8 × UInt8) (ss : List RawSection)
    (names : List String) (hframed : ∀ s ∈ ss, s.Framed) (hcode : ∀ s ∈ ss, s.id ≠ 10)
    (hscan : v.imports (rawBinary version ss) = .ok names) :
    ∃ spaces : List (List String),
      List.Forall₂ (fun s here => namespaces (rawBinary version [s]) = .ok here) ss spaces ∧
      names = (spaces.flatten.map v.stripPrefix).eraseDups ∧
      ∀ k < (rawBinary version ss).length,
        ((∃ found, v.imports ((rawBinary version ss).take k) = .ok found) ↔
          ∃ n, k = (rawBinary version (ss.take n)).length) ∧
        (∀ n, k = (rawBinary version (ss.take n)).length →
          (rawBinary version ss).take k = rawBinary version (ss.take n) ∧
          v.imports ((rawBinary version ss).take k) =
            .ok ((spaces.take n).flatten.map v.stripPrefix).eraseDups) ∧
        ((∀ n, k ≠ (rawBinary version (ss.take n)).length) →
          ∃ offset, v.imports ((rawBinary version ss).take k) =
            .error ⟨.unexpectedEnd, offset⟩) := by
  cases hspaces : namespaces (rawBinary version ss) with
  | error e =>
    rw [Conventions.imports, hspaces] at hscan
    cases hscan
  | ok found =>
    rw [rawBinary, namespaces_rawHeader] at hspaces
    obtain ⟨spaces, hholds⟩ := exists_holds hframed hcode hspaces
    refine ⟨spaces, hholds.imp fun s here h => ?_, ?_, fun k hk => ?_⟩
    · have halone := namespaces_rawBinary version (.cons h .nil)
      rwa [List.flatten_singleton] at halone
    · exact Except.ok.inj (hscan.symm.trans
        (imports_of_namespaces v (namespaces_rawBinary version hholds)))
    · have hwhole : ∀ n, k = (rawBinary version (ss.take n)).length →
          (rawBinary version ss).take k = rawBinary version (ss.take n) ∧
          v.imports ((rawBinary version ss).take k) =
            .ok ((spaces.take n).flatten.map v.stripPrefix).eraseDups := by
        rintro n rfl
        rw [take_rawBinary]
        exact ⟨rfl, imports_of_namespaces v
          (namespaces_rawBinary version (List.forall₂_take n hholds))⟩
      have hwithin : (∀ n, k ≠ (rawBinary version (ss.take n)).length) →
          ∃ offset, v.imports ((rawBinary version ss).take k) =
            .error ⟨.unexpectedEnd, offset⟩ := by
        intro hcut
        obtain ⟨offset, hoffset⟩ := namespaces_of_cut version hholds hk hcut
        exact ⟨offset, by rw [Conventions.imports, hoffset]; rfl⟩
      refine ⟨⟨fun ⟨found, hfound⟩ => ?_, fun ⟨n, hn⟩ => ⟨_, (hwhole n hn).2⟩⟩, hwhole, hwithin⟩
      by_contra hcut
      obtain ⟨offset, hoffset⟩ := hwithin fun n hn => hcut ⟨n, hn⟩
      cases hfound.symm.trans hoffset

/-- A custom section and two import sections, the first of which has its size in three groups. -/
def cutSections : List RawSection :=
  [⟨0, [2], [1, 0x6e]⟩, ⟨2, [0x86, 0x80, 0], [1, 1, 0x61, 0, 0, 7]⟩,
    ⟨2, [6], [1, 1, 0x62, 0, 0, 7]⟩]

theorem imports_of_cut_binary_padded :
    (∀ s ∈ cutSections, s.Framed) ∧ (∀ s ∈ cutSections, s.id ≠ 10) ∧
    ({} : Conventions).imports (rawBinary (1, 0) cutSections) = .ok ["a", "b"] ∧
    (∃ found, ({} : Conventions).imports ((rawBinary (1, 0) cutSections).take 22) = .ok found) ∧
    ∃ offset, ({} : Conventions).imports ((rawBinary (1, 0) cutSections).take 14) =
      .error ⟨.unexpectedEnd, offset⟩ := by
  have hframed : ∀ s ∈ cutSections, s.Framed := by
    simp only [cutSections, List.forall_mem_cons]
    exact ⟨⟨.last (by decide), by decide, by decide⟩,
      ⟨.more (by decide) (.more (by decide) (.last (by decide))), by decide, by decide⟩,
      ⟨.last (by decide), by decide, by decide⟩, fun s hs => nomatch hs⟩
  have hcode : ∀ s ∈ cutSections, s.id ≠ 10 := by decide
  have hscan : ({} : Conventions).imports (rawBinary (1, 0) cutSections) = .ok ["a", "b"] := by
    decide +kernel
  obtain ⟨spaces, -, -, hcuts⟩ := imports_of_cut_binary {} (1, 0) cutSections _ hframed hcode hscan
  refine ⟨hframed, hcode, hscan, (hcuts 22 (by decide)).1.2 ⟨2, by decide⟩,
    (hcuts 14 (by decide)).2.2 fun n => ?_⟩
  match n with
  | 0 => decide
  | 1 => decide
  | 2 => decide
  | n + 3 =>
    rw [List.take_of_length_le (Nat.le_add_left 3 n)]
    decide

end WasmBundle.Proofs
