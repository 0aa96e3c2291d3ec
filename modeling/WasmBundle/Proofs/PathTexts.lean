import WasmBundle.Proofs.PathComponents
import WasmBundle.Proofs.ShownText

/-!
# Paths that are texts

A byte below 128 in the form of a text is a character of its own, so a text and its form are taken
apart at the same places: `splitAtSeparator_utf8`. The parts of a path that is a text are texts, and
so is its file name, which is then shown as it is.
-/

namespace WasmBundle.Proofs
open WasmBundle.Path

lemma utf8_ofList (cs : List Char) :
    Bytes.utf8 (String.ofList cs) = cs.flatMap String.utf8EncodeChar := by
  rw [utf8_eq_flatMap, String.toList_ofList]

lemma utf8_append (s t : String) : Bytes.utf8 (s ++ t) = Bytes.utf8 s ++ Bytes.utf8 t := by
  rw [utf8_eq_flatMap, String.toList_append, List.flatMap_append, ← utf8_eq_flatMap,
    ← utf8_eq_flatMap]

/-- A character below 128 is one byte, and no byte of any other character is below 128. -/
lemma utf8EncodeChar_cases (c : Char) :
    (c.toNat < 128 ∧ String.utf8EncodeChar c = [c.toUInt8]) ∨
      128 ≤ c.toNat ∧ ∀ b ∈ String.utf8EncodeChar c, 128 ≤ b.toNat := by
  have hc : c.toUInt8 = UInt8.ofNat c.val.toNat := rfl
  have hhigh : ∀ n < 256, 128 ≤ n → 128 ≤ (UInt8.ofNat n).toNat := by
    intro n hn h
    rwa [UInt8.toNat_ofNat', Nat.mod_eq_of_lt hn]
  rw [hc, Char.toNat]
  simp only [String.utf8EncodeChar]
  generalize c.val.toNat = n at *
  split_ifs
  · exact .inl ⟨by omega, rfl⟩
  all_goals
    refine .inr ⟨by omega, fun b hb => ?_⟩
    simp only [List.mem_cons, List.not_mem_nil, or_false] at hb
    rcases hb with rfl | rfl | rfl | rfl <;> exact hhigh _ (by omega) (by omega)

lemma toUInt8_inj {c d : Char} (hc : c.toNat < 128) (hd : d.toNat < 128)
    (h : c.toUInt8 = d.toUInt8) : c = d := by
  have hnat : c.toNat % 256 = d.toNat % 256 := congrArg UInt8.toNat h
  exact Char.toNat_inj.1 (by omega)

/-- A text has a character below 128 where its form has the byte. -/
lemma mem_utf8EncodeChar_iff {c d : Char} (hd : d.toNat < 128) :
    d.toUInt8 ∈ String.utf8EncodeChar c ↔ d = c := by
  have hsmall : d.toUInt8.toNat < 128 := by
    have hnat : d.toUInt8.toNat = d.toNat % 256 := rfl
    omega
  rcases utf8EncodeChar_cases c with ⟨hc, hform⟩ | ⟨hc, hhigh⟩
  · rw [hform, List.mem_singleton]
    exact ⟨toUInt8_inj hd hc, congrArg Char.toUInt8⟩
  · refine ⟨fun h => ?_, fun h => ?_⟩
    · have hlarge := hhigh _ h
      omega
    · rw [h] at hd
      omega

lemma mem_utf8_iff {s : String} {d : Char} (hd : d.toNat < 128) :
    d.toUInt8 ∈ Bytes.utf8 s ↔ d ∈ s.toList := by
  rw [utf8_eq_flatMap, List.mem_flatMap]
  simp only [mem_utf8EncodeChar_iff hd, exists_eq_right']

lemma head?_utf8_iff {s : String} {d : Char} (hd : d.toNat < 128) :
    (Bytes.utf8 s).head? = some d.toUInt8 ↔ s.toList.head? = some d := by
  rw [utf8_eq_flatMap]
  cases s.toList with
  | nil => simp
  | cons c cs =>
    obtain ⟨b, rest, hb⟩ := List.exists_cons_of_ne_nil (String.utf8EncodeChar_ne_nil (c := c))
    rw [List.flatMap_cons, hb, List.cons_append, List.head?_cons, List.head?_cons,
      Option.some.injEq, Option.some.injEq]
    refine ⟨fun h => ?_, fun h => ?_⟩
    · exact ((mem_utf8EncodeChar_iff hd).1 (by rw [hb, h]; exact List.mem_cons_self)).symm
    · subst h
      obtain ⟨-, hform⟩ | ⟨hc, -⟩ := utf8EncodeChar_cases c
      · rw [hform] at hb
        exact (List.cons.inj hb).1.symm
      · omega

lemma utf8_eq_nil_iff {s : String} : Bytes.utf8 s = [] ↔ s = "" := by
  rw [utf8_eq_flatMap, List.flatMap_eq_nil_iff]
  refine ⟨fun h => ?_, fun h => ?_⟩
  · cases hs : s.toList with
    | nil => exact String.toList_eq_nil_iff.1 hs
    | cons c cs => exact absurd (h c (by simp [hs])) String.utf8EncodeChar_ne_nil
  · simp [h]

/-- What has no separator goes to the first part. -/
lemma splitAtSeparator_append_left {α : Type} [DecidableEq α] {sep : α} {a b s : List α}
    {t : List (List α)} (h : sep ∉ a) (hs : splitAtSeparator sep b = s :: t) :
    splitAtSeparator sep (a ++ b) = (a ++ s) :: t := by
  induction a with
  | nil => exact hs
  | cons c a ih =>
    rw [List.mem_cons, not_or] at h
    exact splitAtSeparator_cons_of_ne (Ne.symm h.1) (ih h.2)

/-- A text and its form are taken apart at the same places. -/
theorem splitAtSeparator_utf8 (s : String) {d : Char} (hd : d.toNat < 128) :
    splitAtSeparator d.toUInt8 (Bytes.utf8 s) =
      (splitAtSeparator d s.toList).map fun part => Bytes.utf8 (String.ofList part) := by
  rw [utf8_eq_flatMap]
  simp only [utf8_ofList]
  induction s.toList with
  | nil => rfl
  | cons c cs ih =>
    rw [List.flatMap_cons]
    by_cases hc : c = d
    · subst hc
      obtain ⟨-, hform⟩ | ⟨hc, -⟩ := utf8EncodeChar_cases c
      · simp only [hform, List.singleton_append, splitAtSeparator, if_true, ih, List.map_cons,
          List.flatMap_nil]
      · omega
    · obtain ⟨part, parts, hparts⟩ := exists_splitAtSeparator_eq_cons d cs
      rw [hparts, List.map_cons] at ih
      have hnone : d.toUInt8 ∉ String.utf8EncodeChar c := fun h =>
        hc ((mem_utf8EncodeChar_iff hd).1 h).symm
      rw [splitAtSeparator_append_left hnone ih, splitAtSeparator_cons_of_ne hc hparts,
        List.map_cons, List.flatMap_cons]

/-- The parts of a path that is a text are texts. -/
lemma isText_of_mem_parts {s : String} {part : Bytes}
    (h : part ∈ splitAtSeparator separator (Bytes.utf8 s)) : part.isText = true := by
  have hsplit := splitAtSeparator_utf8 s (d := '/') (by decide)
  rw [show ('/' : Char).toUInt8 = separator from rfl] at hsplit
  rw [hsplit] at h
  obtain ⟨cs, -, rfl⟩ := List.mem_map.1 h
  exact Bytes.isText_utf8 _

lemma utf8_shown {b : Bytes} (h : b.isText = true) : Bytes.utf8 b.shown = b := by
  obtain ⟨s, rfl⟩ := Bytes.isText_iff.1 h
  rw [shown_utf8]

/-- A path is the one that it is shown as exactly if it is a text. -/
lemma ofText_text_iff {p : Path} : Path.ofText p.text = p ↔ p.bytes.isText = true := by
  refine ⟨fun h => ?_, fun h => congrArg Path.mk (utf8_shown h)⟩
  rw [← h]
  exact Bytes.isText_utf8 _

lemma isText_append {b c : Bytes} (hb : b.isText = true) (hc : c.isText = true) :
    Bytes.isText (b ++ c) = true := by
  obtain ⟨s, rfl⟩ := Bytes.isText_iff.1 hb
  obtain ⟨t, rfl⟩ := Bytes.isText_iff.1 hc
  rw [← utf8_append]
  exact Bytes.isText_utf8 _

lemma isText_separator_cons {b : Bytes} (h : b.isText = true) :
    Bytes.isText (separator :: b) = true :=
  isText_append (Bytes.isText_utf8 "/") h

lemma isText_joinWithSeparator {parts : List Bytes} (h : ∀ s ∈ parts, s.isText = true) :
    Bytes.isText (joinWithSeparator separator parts) = true := by
  induction parts with
  | nil => exact Bytes.isText_utf8 ""
  | cons s t ih =>
    cases t with
    | nil => exact h s List.mem_cons_self
    | cons u t =>
      exact isText_append (h s List.mem_cons_self)
        (isText_separator_cons (ih fun v hv => h v (List.mem_cons_of_mem _ hv)))

variable {p q : Path}

lemma isText_join (hp : p.bytes.isText = true) (hq : q.bytes.isText = true) :
    (p.join q).bytes.isText = true := by
  rw [bytes_join]
  split
  · exact hq
  · split
    · exact isText_append hp hq
    · exact isText_append hp (isText_separator_cons hq)

lemma isText_parent? (hp : p.bytes.isText = true) (h : p.parent? = some q) :
    q.bytes.isText = true := by
  obtain ⟨s, hs⟩ := Bytes.isText_iff.1 hp
  obtain ⟨head, tail, hparts⟩ := exists_splitAtSeparator_eq_cons separator p.bytes
  have htexts : ∀ part ∈ head :: tail, Bytes.isText part = true := fun part hpart =>
    isText_of_mem_parts (s := s) (hs ▸ hparts ▸ hpart)
  rcases trimmed_cases tail with hnone | ⟨front, last, hfront, -⟩
  · simp only [parent?, segments, hparts, hnone] at h
    split at h
    · cases h
    · cases h
      exact Bytes.isText_utf8 ""
  · cases (parent?_of_trimmed hparts hfront).symm.trans h
    have hsub : ∀ part ∈ head :: trimmed front, Bytes.isText part = true := by
      intro part hpart
      rcases List.mem_cons.1 hpart with rfl | hpart
      · exact htexts _ List.mem_cons_self
      · refine htexts part (List.mem_cons_of_mem _ (mem_of_mem_trimmed ?_))
        rw [hfront]
        exact List.mem_append_left _ (mem_of_mem_trimmed hpart)
    rw [parentBytes]
    split
    · split
      · exact Bytes.isText_utf8 "/"
      · exact htexts head List.mem_cons_self
    · exact isText_joinWithSeparator hsub

end WasmBundle.Proofs
