import Mathlib.Tactic.Lemma
import Mathlib.Tactic.SplitIfs
import WasmBundle.Bytes

/-!
# The order of texts and of their UTF-8 forms

UTF-8 keeps the order of characters: the forms of two different characters differ in a byte that
both have, and the lesser character has the lesser one there. So texts in increasing order have
UTF-8 forms in increasing order, and the other way round.
-/

namespace WasmBundle.Proofs

lemma utf8_eq_flatMap (s : String) :
    Bytes.utf8 s = s.toList.flatMap String.utf8EncodeChar := by
  rw [Bytes.utf8, String.toUTF8_eq_toByteArray, ← String.utf8Encode_toList, List.utf8Encode,
    List.toList_data_toByteArray]

lemma ofNat_cons_lt_iff {m n : Nat} {a b : Bytes} (hm : m < 256) (hn : n < 256) :
    UInt8.ofNat m :: a < UInt8.ofNat n :: b ↔ m < n ∨ m = n ∧ a < b := by
  rw [List.cons_lt_cons_iff, UInt8.lt_iff_toNat_lt, ← UInt8.toNat_inj, UInt8.toNat_ofNat',
    UInt8.toNat_ofNat', Nat.mod_eq_of_lt hm, Nat.mod_eq_of_lt hn]

/-- The lesser of two numbers has the lesser group of six bits where their groups differ first. -/
lemma groups_lt {m n : Nat} (h : m < n) (hn : n < 0x110000) :
    m / 262144 % 8 < n / 262144 % 8 ∨ m / 262144 % 8 = n / 262144 % 8 ∧
      (m / 4096 % 64 < n / 4096 % 64 ∨ m / 4096 % 64 = n / 4096 % 64 ∧
        (m / 64 % 64 < n / 64 % 64 ∨ m / 64 % 64 = n / 64 % 64 ∧ m % 64 < n % 64)) := by
  have hsum : ∀ k < 0x110000, k / 262144 % 8 * 262144 + k / 4096 % 64 * 4096 +
      k / 64 % 64 * 64 + k % 64 = k := by
    intro k hk
    omega
  have hbound : ∀ k : Nat, k / 4096 % 64 < 64 ∧ k / 64 % 64 < 64 ∧ k % 64 < 64 := by
    intro k
    omega
  have hsm := hsum m (by omega)
  have hsn := hsum n hn
  have hbm := hbound m
  have hbn := hbound n
  generalize m / 262144 % 8 = m₃, m / 4096 % 64 = m₂, m / 64 % 64 = m₁, m % 64 = m₀ at *
  generalize n / 262144 % 8 = n₃, n / 4096 % 64 = n₂, n / 64 % 64 = n₁, n % 64 = n₀ at *
  omega

/-- The lesser of two characters has the lesser form, whatever follows. -/
theorem utf8EncodeChar_lt {c d : Char} (h : c < d) (a b : Bytes) :
    String.utf8EncodeChar c ++ a < String.utf8EncodeChar d ++ b := by
  have hcd : c.val.toNat < d.val.toNat := h
  have hd : d.val.toNat < 0x110000 := by
    have hvalid := d.valid
    simp only [UInt32.isValidChar, Nat.isValidChar] at hvalid
    omega
  simp only [String.utf8EncodeChar]
  generalize c.val.toNat = m at *
  generalize d.val.toNat = n at *
  have hgroups := groups_lt hcd hd
  split_ifs
  all_goals
    simp (disch := omega) only [List.cons_append, List.nil_append, ofNat_cons_lt_iff]
    omega

lemma flatMap_utf8EncodeChar_lt {a b : List Char} (h : a < b) :
    a.flatMap String.utf8EncodeChar < b.flatMap String.utf8EncodeChar := by
  induction h with
  | @nil d b =>
    rw [List.flatMap_nil, List.flatMap_cons]
    obtain ⟨x, bytes, hx⟩ := List.exists_cons_of_ne_nil (String.utf8EncodeChar_ne_nil (c := d))
    rw [hx]
    exact List.nil_lt_cons _ _
  | rel h =>
    rw [List.flatMap_cons, List.flatMap_cons]
    exact utf8EncodeChar_lt h _ _
  | cons _ ih =>
    rw [List.flatMap_cons, List.flatMap_cons]
    exact List.append_left_lt ih

/-- Texts are ordered as the bytes of their UTF-8 forms are. -/
theorem utf8_lt_utf8_iff (s t : String) : Bytes.utf8 s < Bytes.utf8 t ↔ s < t := by
  have hmono : ∀ s t : String, s < t → Bytes.utf8 s < Bytes.utf8 t := by
    intro s t h
    rw [utf8_eq_flatMap, utf8_eq_flatMap]
    exact flatMap_utf8EncodeChar_lt h
  refine ⟨fun h => ?_, hmono s t⟩
  by_cases hst : s < t
  · exact hst
  · rcases String.le_total s t with hle | hle
    · have heq : s = t := String.le_antisymm hle (String.not_lt.1 hst)
      rw [heq] at h
      exact absurd h (List.lt_irrefl _)
    · by_cases hts : t < s
      · exact absurd h (List.lt_asymm (hmono t s hts))
      · have heq : s = t := String.le_antisymm (String.not_lt.1 hts) hle
        rw [heq] at h
        exact absurd h (List.lt_irrefl _)

end WasmBundle.Proofs
