import Mathlib.Tactic.Lemma
import WasmBundle.Container.Checksum
import WasmBundle.Proofs.ContainerFields

/-!
# Changes that a checksum shows

Shifting out a bit is linear over exclusive or and loses nothing, for the polynomial has its top bit
set. So registers that differ differ after any bytes, and four bytes that are read one after another
are one number of 32 bits added to the register. Two byte strings that differ in at most four
adjacent bytes therefore have different checksums.
-/

namespace WasmBundle.Proofs
open Container

lemma checksumBit_eq (r : UInt32) :
    checksumBit r = if r.toNat % 2 = 1 then (r >>> 1) ^^^ polynomial else r >>> 1 := by
  have hlow : r &&& 1 = 1 ↔ r.toNat % 2 = 1 := by
    rw [← UInt32.toNat_inj, UInt32.toNat_and, UInt32.toNat_one, Nat.and_one_is_mod]
  simp only [checksumBit, hlow]

/-- Shifting out a bit is linear. -/
theorem checksumBit_xor (r s : UInt32) :
    checksumBit (r ^^^ s) = checksumBit r ^^^ checksumBit s := by
  have hlow : (r ^^^ s).toNat % 2 = (r.toNat % 2) ^^^ (s.toNat % 2) := by
    rw [UInt32.toNat_xor]
    exact Nat.xor_mod_two_pow (n := 1)
  rw [checksumBit_eq, checksumBit_eq, checksumBit_eq, hlow, UInt32.shiftRight_xor]
  rcases Nat.mod_two_eq_zero_or_one r.toNat with hr | hr <;>
    rcases Nat.mod_two_eq_zero_or_one s.toNat with hs | hs <;> rw [hr, hs]
  · rfl
  · exact UInt32.xor_assoc _ _ _
  · change r >>> 1 ^^^ s >>> 1 ^^^ polynomial = r >>> 1 ^^^ polynomial ^^^ s >>> 1
    ac_rfl
  · have htwice : r >>> 1 ^^^ polynomial ^^^ (s >>> 1 ^^^ polynomial) =
        r >>> 1 ^^^ s >>> 1 ^^^ (polynomial ^^^ polynomial) := by ac_rfl
    change r >>> 1 ^^^ s >>> 1 = r >>> 1 ^^^ polynomial ^^^ (s >>> 1 ^^^ polynomial)
    rw [htwice, UInt32.xor_self, UInt32.xor_zero]

lemma toNat_shiftRight_one (r : UInt32) : (r >>> 1).toNat = r.toNat / 2 := by
  rw [UInt32.toNat_shiftRight]
  exact Nat.shiftRight_eq_div_pow r.toNat 1

/-- A bit that is shifted out is told by the top bit afterwards. -/
lemma eq_zero_of_checksumBit {r : UInt32} (h : checksumBit r = 0) : r = 0 := by
  have hshift := toNat_shiftRight_one r
  have hlt := r.toNat_lt
  rw [checksumBit_eq] at h
  by_cases hr : r.toNat % 2 = 1
  · rw [if_pos hr, UInt32.xor_eq_zero_iff] at h
    have htop : r.toNat / 2 = 0xEDB88320 := by rw [← hshift, h]; rfl
    omega
  · rw [if_neg hr] at h
    have hzero : r.toNat / 2 = 0 := by rw [← hshift, h]; rfl
    exact UInt32.toNat_inj.1 (by rw [UInt32.toNat_zero]; omega)

lemma checksumBits_xor (n : Nat) (r s : UInt32) :
    checksumBits n (r ^^^ s) = checksumBits n r ^^^ checksumBits n s := by
  induction n generalizing r s with
  | zero => rfl
  | succ n ih => rw [checksumBits, checksumBits, checksumBits, checksumBit_xor, ih]

lemma eq_zero_of_checksumBits {n : Nat} {r : UInt32} (h : checksumBits n r = 0) : r = 0 := by
  induction n generalizing r with
  | zero => exact h
  | succ n ih => exact eq_zero_of_checksumBit (ih h)

/-- Nothing is lost by shifting out bits. -/
theorem checksumBits_injective (n : Nat) {r s : UInt32} (h : checksumBits n r = checksumBits n s) :
    r = s := by
  refine UInt32.xor_eq_zero_iff.1 (eq_zero_of_checksumBits (n := n) ?_)
  rw [checksumBits_xor, h, UInt32.xor_self]

lemma checksumBits_add (m n : Nat) (r : UInt32) :
    checksumBits (m + n) r = checksumBits n (checksumBits m r) := by
  induction m generalizing r with
  | zero => rw [Nat.zero_add, checksumBits]
  | succ m ih => rw [Nat.succ_add, checksumBits, checksumBits, ih]

/-- Bits that are not set are shifted out and nothing else happens. -/
lemma toNat_checksumBits {n : Nat} {r : UInt32} (h : 2 ^ n ∣ r.toNat) :
    (checksumBits n r).toNat = r.toNat / 2 ^ n := by
  induction n generalizing r with
  | zero => rw [checksumBits, Nat.pow_zero, Nat.div_one]
  | succ n ih =>
    obtain ⟨k, hk⟩ := h
    have hhalf : (checksumBit r).toNat = r.toNat / 2 := by
      have heven : r.toNat % 2 ≠ 1 := by
        rw [hk, Nat.pow_succ', Nat.mul_assoc, Nat.mul_mod_right]
        decide
      rw [checksumBit_eq, if_neg heven, toNat_shiftRight_one]
    have hrest : 2 ^ n ∣ (checksumBit r).toNat := by
      refine ⟨k, ?_⟩
      rw [hhalf, hk, Nat.pow_succ', Nat.mul_assoc, Nat.mul_div_cancel_left _ (by decide)]
    rw [checksumBits, ih hrest, hhalf, Nat.div_div_eq_div_mul, Nat.pow_succ']

lemma byte_xor_above (b : UInt8) (n : Nat) : b.toNat ^^^ 256 * n = b.toNat + 256 * n := by
  have hb : b.toNat < 256 := b.toNat_lt
  have hmod : (b.toNat ^^^ 256 * n) % 2 ^ 8 = b.toNat % 2 ^ 8 ^^^ 256 * n % 2 ^ 8 :=
    Nat.xor_mod_two_pow
  have hdiv : (b.toNat ^^^ 256 * n) / 2 ^ 8 = b.toNat / 2 ^ 8 ^^^ 256 * n / 2 ^ 8 :=
    Nat.xor_div_two_pow
  have hlow : 256 * n % 2 ^ 8 = 0 := Nat.mul_mod_right 256 n
  have hhigh : b.toNat / 2 ^ 8 = 0 := Nat.div_eq_of_lt hb
  rw [hlow, Nat.xor_zero] at hmod
  rw [hhigh, Nat.zero_xor] at hdiv
  omega

lemma ofNat_byte_add (b : UInt8) (n : Nat) :
    UInt32.ofNat (b.toNat + 256 * n) = b.toUInt32 ^^^ UInt32.ofNat (256 * n) := by
  have hb : b.toUInt32 = UInt32.ofNat b.toNat := UInt32.toNat_inj.1 (by simp)
  rw [hb, ← UInt32.ofNat_xor, byte_xor_above]

/-- What lies above a byte moves down when the byte is shifted out. -/
lemma checksumBits_above {n : Nat} (h : 256 * n < UInt32.size) :
    checksumBits 8 (UInt32.ofNat (256 * n)) = UInt32.ofNat n := by
  have hvalue : (UInt32.ofNat (256 * n)).toNat = 256 * n := UInt32.toNat_ofNat_of_lt' h
  have hdvd : 2 ^ 8 ∣ (UInt32.ofNat (256 * n)).toNat := ⟨n, hvalue⟩
  refine UInt32.toNat_inj.1 ?_
  rw [toNat_checksumBits hdvd, hvalue, UInt32.toNat_ofNat_of_lt' (by omega)]
  exact Nat.mul_div_cancel_left n (by decide)

/-- At most four bytes are one number that is added to the register, and as many bits are shifted
out. -/
theorem foldl_checksumByte {w : Bytes} (h : w.length ≤ 4) (r : UInt32) :
    w.foldl checksumByte r =
      checksumBits (8 * w.length) (r ^^^ UInt32.ofNat (ofLittleEndian w)) := by
  induction w generalizing r with
  | nil => exact UInt32.xor_zero.symm
  | cons b w ih =>
    have hlen : w.length ≤ 3 := Nat.le_of_succ_le_succ h
    have hlt : 256 * ofLittleEndian w < UInt32.size :=
      Nat.mul_lt_mul_of_pos_left (ofLittleEndian_lt hlen) (by decide)
    have hregister : checksumByte r b ^^^ UInt32.ofNat (ofLittleEndian w) =
        checksumBits 8 (r ^^^ UInt32.ofNat (ofLittleEndian (b :: w))) := by
      rw [checksumByte, ofLittleEndian, ofNat_byte_add, ← UInt32.xor_assoc,
        checksumBits_xor 8 (r ^^^ b.toUInt32), checksumBits_above hlt]
    rw [List.foldl_cons, ih (Nat.le_succ_of_le hlen), hregister, List.length_cons, Nat.mul_succ,
      Nat.add_comm, checksumBits_add]

lemma foldl_checksumByte_injective {s : Bytes} {r r' : UInt32}
    (h : s.foldl checksumByte r = s.foldl checksumByte r') : r = r' := by
  induction s generalizing r r' with
  | nil => exact h
  | cons b s ih => exact (UInt32.xor_left_inj _).1 (checksumBits_injective 8 (ih h))

/-- Byte strings that differ in at most four adjacent bytes have different checksums. -/
theorem checksum_ne_of_window {front w w' back : Bytes} (hlen : w'.length = w.length)
    (hfour : w.length ≤ 4) (hne : w' ≠ w) :
    checksum (front ++ w' ++ back) ≠ checksum (front ++ w ++ back) := by
  intro h
  have hfold := (UInt32.xor_left_inj _).1 h
  rw [List.foldl_append, List.foldl_append, List.foldl_append, List.foldl_append] at hfold
  have hwindow := foldl_checksumByte_injective hfold
  rw [foldl_checksumByte hfour, foldl_checksumByte (hlen ▸ hfour), hlen] at hwindow
  have hnumber := (UInt32.xor_right_inj _).1 (checksumBits_injective _ hwindow)
  exact hne (eq_of_ofNat_ofLittleEndian hlen hfour hnumber)

end WasmBundle.Proofs
