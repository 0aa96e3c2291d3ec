import WasmBundle.Path
import WasmBundle.Proofs.Utf8Order

/-!
# How bytes are shown

A text is shown as it is: the first byte of a character's form says how many follow and where they
lie, so `lossyText` reads every character back and puts no replacement. Bytes that are no text may
be shown as a text that others are shown as too.
-/

namespace WasmBundle.Proofs

lemma text?_utf8EncodeChar (c : Char) :
    Bytes.text? (String.utf8EncodeChar c) = some (String.ofList [c]) := by
  have hform : String.utf8EncodeChar c = Bytes.utf8 (String.ofList [c]) := by
    rw [utf8_eq_flatMap, String.toList_ofList, List.flatMap_singleton]
  rw [hform, Bytes.text?_utf8]

/-- The bytes begin a character and have all that belongs to it. -/
def Complete (b : UInt8) (rest : Bytes) : Prop :=
  ∃ ranges, continuationRanges? b = some ranges ∧ ranges.length = rest.length ∧
    ∀ more, matching ranges (rest ++ more) = rest.length

/-- Bytes given as numbers lie in a range of numbers. -/
lemma matching_cons {n : Nat} (hn : n < 256) {low high : UInt8}
    (hlow : low.toNat ≤ n) (hhigh : n ≤ high.toNat) (ranges : List (UInt8 × UInt8)) (b : Bytes) :
    matching ((low, high) :: ranges) (UInt8.ofNat n :: b) = matching ranges b + 1 := by
  have hmod : n % 2 ^ 8 = n := Nat.mod_eq_of_lt hn
  rw [matching, if_pos]
  rw [UInt8.le_iff_toNat_le, UInt8.le_iff_toNat_le, UInt8.toNat_ofNat', hmod]
  exact ⟨hlow, hhigh⟩

lemma matching_nil (b : Bytes) : matching [] b = 0 := by
  cases b <;> rfl

/-- The first byte of a character as a number. -/
lemma continuationRanges?_ofNat {n : Nat} (hn : n < 256) :
    continuationRanges? (UInt8.ofNat n) =
      if n < 0x80 then some []
      else if n < 0xc2 then none
      else if n < 0xe0 then some [(0x80, 0xbf)]
      else if n = 0xe0 then some [(0xa0, 0xbf), (0x80, 0xbf)]
      else if n = 0xed then some [(0x80, 0x9f), (0x80, 0xbf)]
      else if n < 0xf0 then some [(0x80, 0xbf), (0x80, 0xbf)]
      else if n = 0xf0 then some [(0x90, 0xbf), (0x80, 0xbf), (0x80, 0xbf)]
      else if n < 0xf4 then some [(0x80, 0xbf), (0x80, 0xbf), (0x80, 0xbf)]
      else if n = 0xf4 then some [(0x80, 0x8f), (0x80, 0xbf), (0x80, 0xbf)]
      else none := by
  have hmod : n % 2 ^ 8 = n := Nat.mod_eq_of_lt hn
  simp only [continuationRanges?, UInt8.lt_iff_toNat_lt, ← UInt8.toNat_inj, UInt8.toNat_ofNat',
    hmod]
  rfl

/-- Bytes after the first one that lie in the ranges make a character complete. -/
lemma complete_two {a b : Nat} (ha : 0xc2 ≤ a ∧ a < 0xe0) (hb : 0x80 ≤ b ∧ b ≤ 0xbf) :
    Complete (UInt8.ofNat a) [UInt8.ofNat b] := by
  refine ⟨[(0x80, 0xbf)], ?_, rfl, fun more => ?_⟩
  · simp (disch := omega) only [continuationRanges?_ofNat, if_neg, if_pos]
  · rw [List.cons_append, matching_cons (by omega) hb.1 hb.2, matching_nil]
    rfl

lemma complete_three {a b c : Nat} (ha : 0xe0 ≤ a ∧ a < 0xf0) (hb : 0x80 ≤ b ∧ b ≤ 0xbf)
    (hlow : a = 0xe0 → 0xa0 ≤ b) (hhigh : a = 0xed → b ≤ 0x9f) (hc : 0x80 ≤ c ∧ c ≤ 0xbf) :
    Complete (UInt8.ofNat a) [UInt8.ofNat b, UInt8.ofNat c] := by
  have hfits : ∀ {low high : UInt8}, low.toNat ≤ b → b ≤ high.toNat → ∀ more,
      matching [(low, high), (0x80, 0xbf)] ([UInt8.ofNat b, UInt8.ofNat c] ++ more) = 2 := by
    intro low high hl hh more
    rw [List.cons_append, List.cons_append, matching_cons (by omega) hl hh,
      matching_cons (by omega) hc.1 hc.2, matching_nil]
  by_cases h0 : a = 0xe0
  · refine ⟨[(0xa0, 0xbf), (0x80, 0xbf)], ?_, rfl, hfits (hlow h0) hb.2⟩
    simp (disch := omega) only [continuationRanges?_ofNat, if_neg, if_pos]
  · by_cases hd : a = 0xed
    · refine ⟨[(0x80, 0x9f), (0x80, 0xbf)], ?_, rfl, hfits hb.1 (hhigh hd)⟩
      simp (disch := omega) only [continuationRanges?_ofNat, if_neg, if_pos]
    · refine ⟨[(0x80, 0xbf), (0x80, 0xbf)], ?_, rfl, hfits hb.1 hb.2⟩
      simp (disch := omega) only [continuationRanges?_ofNat, if_neg, if_pos]

lemma complete_four {a b c d : Nat} (ha : 0xf0 ≤ a ∧ a ≤ 0xf4) (hb : 0x80 ≤ b ∧ b ≤ 0xbf)
    (hlow : a = 0xf0 → 0x90 ≤ b) (hhigh : a = 0xf4 → b ≤ 0x8f) (hc : 0x80 ≤ c ∧ c ≤ 0xbf)
    (hd : 0x80 ≤ d ∧ d ≤ 0xbf) :
    Complete (UInt8.ofNat a) [UInt8.ofNat b, UInt8.ofNat c, UInt8.ofNat d] := by
  have hfits : ∀ {low high : UInt8}, low.toNat ≤ b → b ≤ high.toNat → ∀ more,
      matching [(low, high), (0x80, 0xbf), (0x80, 0xbf)]
        ([UInt8.ofNat b, UInt8.ofNat c, UInt8.ofNat d] ++ more) = 3 := by
    intro low high hl hh more
    rw [List.cons_append, List.cons_append, List.cons_append, matching_cons (by omega) hl hh,
      matching_cons (by omega) hc.1 hc.2, matching_cons (by omega) hd.1 hd.2, matching_nil]
  by_cases h0 : a = 0xf0
  · refine ⟨[(0x90, 0xbf), (0x80, 0xbf), (0x80, 0xbf)], ?_, rfl, hfits (hlow h0) hb.2⟩
    simp (disch := omega) only [continuationRanges?_ofNat, if_neg, if_pos]
  · by_cases h4 : a = 0xf4
    · refine ⟨[(0x80, 0x8f), (0x80, 0xbf), (0x80, 0xbf)], ?_, rfl, hfits hb.1 (hhigh h4)⟩
      simp (disch := omega) only [continuationRanges?_ofNat, if_neg, if_pos]
    · refine ⟨[(0x80, 0xbf), (0x80, 0xbf), (0x80, 0xbf)], ?_, rfl, hfits hb.1 hb.2⟩
      simp (disch := omega) only [continuationRanges?_ofNat, if_neg, if_pos]

/-- Every character's form is complete: what its first byte asks for follows. -/
theorem complete_utf8EncodeChar (c : Char) :
    ∃ b rest, String.utf8EncodeChar c = b :: rest ∧ Complete b rest := by
  have hvalid : c.val.toNat.isValidChar := c.valid
  simp only [Nat.isValidChar] at hvalid
  simp only [String.utf8EncodeChar]
  generalize c.val.toNat = n at *
  split_ifs with h1 h2 h3
  · refine ⟨_, _, rfl, [], ?_, rfl, matching_nil⟩
    rw [continuationRanges?_ofNat (by omega), if_pos (by omega)]
  · exact ⟨_, _, rfl, complete_two (by omega) (by omega)⟩
  · exact ⟨_, _, rfl, complete_three (by omega) (by omega) (by omega) (by omega) (by omega)⟩
  · exact ⟨_, _, rfl,
      complete_four (by omega) (by omega) (by omega) (by omega) (by omega) (by omega)⟩

lemma lossyText_utf8EncodeChar (c : Char) (b : Bytes) :
    lossyText (String.utf8EncodeChar c ++ b) = c :: lossyText b := by
  obtain ⟨x, rest, hform, ranges, hranges, hlength, hmatching⟩ := complete_utf8EncodeChar c
  have htext := text?_utf8EncodeChar c
  rw [hform] at htext ⊢
  rw [List.cons_append, lossyText, lossyBehind, hranges]
  simp only [lossyBehind_eq, hmatching, hlength, if_true, List.take_left, List.drop_left, htext,
    Option.map_some, Option.getD_some, String.toList_ofList, List.singleton_append]

/-- A text is read off its form, whatever follows. -/
theorem lossyText_utf8_append (s : String) (b : Bytes) :
    lossyText (Bytes.utf8 s ++ b) = s.toList ++ lossyText b := by
  rw [utf8_eq_flatMap]
  induction s.toList with
  | nil => rfl
  | cons c cs ih =>
    rw [List.flatMap_cons, List.append_assoc, lossyText_utf8EncodeChar, ih, List.cons_append]

@[simp] theorem shown_utf8 (s : String) : (Bytes.utf8 s).shown = s := by
  have htext := lossyText_utf8_append s []
  rw [List.append_nil] at htext
  rw [Bytes.shown, htext, lossyText, lossyBehind, List.append_nil, String.ofList_toList]

@[simp] theorem text_ofText (s : String) : (Path.ofText s).text = s := shown_utf8 s

end WasmBundle.Proofs
