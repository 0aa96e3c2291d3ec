import Mathlib.Data.List.Basic
import Mathlib.Tactic.Lemma
import WasmBundle.Proofs.PathComponents
import WasmBundle.Script

/-!
# Buffers in scripts

An expression for a buffer states how long the buffer is and lists the decimals that fill it. What
is written for a byte string is such an expression, states the number of the decimals that it lists,
and is read back as the byte string.
-/

namespace WasmBundle.Proofs
open WasmBundle.Script

/-- What stands between two texts. -/
def between? (opening closing cs : List Char) : Option (List Char) :=
  (cs.dropPrefix? opening).bind (·.dropSuffix? closing)

lemma dropPrefix?_append {α : Type} [BEq α] [LawfulBEq α] (p l : List α) :
    (p ++ l).dropPrefix? p = some l :=
  List.dropPrefix?_append_of_beq l (beq_self_eq_true p)

lemma dropSuffix?_append {α : Type} [BEq α] [LawfulBEq α] (l s : List α) :
    (l ++ s).dropSuffix? s = some l :=
  List.dropSuffix?_eq_some_iff.2 ⟨s, rfl, beq_self_eq_true s⟩

lemma between?_append (opening cs closing : List Char) :
    between? opening closing (opening ++ cs ++ closing) = some cs := by
  rw [between?, List.append_assoc, dropPrefix?_append, Option.bind_some, dropSuffix?_append]

/-- The number of a decimal numeral. -/
def decimal? (cs : List Char) : Option Nat :=
  if cs ≠ [] ∧ cs.all Char.isDigit then some (Nat.ofDigitChars 10 cs 0) else none

/-- The byte of a decimal numeral. -/
def byte? (cs : List Char) : Option UInt8 :=
  (decimal? cs).bind fun n => if n < 256 then some n.toUInt8 else none

/-- The numerals that are listed with commas between them. -/
def listed (cs : List Char) : List (List Char) := if cs = [] then [] else splitAtSeparator ',' cs

/-- What stands before the size of a buffer. -/
def bufferOpening : String := "(function() \x7b var buffer = new ArrayBuffer("

/-- What stands between the size of a buffer and the bytes. -/
def bufferMiddle : String := "); new Uint8Array(buffer).set(["

/-- What stands behind the bytes of a buffer. -/
def bufferClosing : String := "]); return buffer; \x7d)()"

/-- An expression for a buffer of a stated size, which is the number of the decimals listed in it;
they are the decimals of the bytes. -/
def Fills (buffer : String) (bytes : Bytes) : Prop :=
  ∃ size list : String,
    buffer = bufferOpening ++ size ++ bufferMiddle ++ list ++ bufferClosing ∧
    decimal? size.toList = some (listed list.toList).length ∧
    (listed list.toList).mapM byte? = some bytes

/-- The bytes of an expression for a buffer. -/
def bytes? (cs : List Char) : Option Bytes := do
  let cs ← between? bufferOpening.toList bufferClosing.toList cs
  let list ← (cs.dropWhile Char.isDigit).dropPrefix? bufferMiddle.toList
  let bytes ← (listed list).mapM byte?
  if decimal? (cs.takeWhile Char.isDigit) = some (listed list).length then some bytes else none

lemma isDigit_of_decimal? {cs : List Char} {n : Nat} (h : decimal? cs = some n) :
    ∀ c ∈ cs, c.isDigit = true := by
  unfold decimal? at h
  split at h
  · rename_i hdigits
    exact List.all_eq_true.1 hdigits.2
  · cases h

lemma bytes?_of_fills {buffer : String} {bytes : Bytes} (h : Fills buffer bytes) :
    bytes? buffer.toList = some bytes := by
  obtain ⟨size, list, rfl, hsize, hlist⟩ := h
  have hdigits := isDigit_of_decimal? hsize
  have hmiddle : bufferMiddle.toList = ')' :: bufferMiddle.toList.tail := rfl
  have hrest : ∀ l, (bufferMiddle.toList ++ l).takeWhile Char.isDigit = [] ∧
      (bufferMiddle.toList ++ l).dropWhile Char.isDigit = bufferMiddle.toList ++ l := by
    intro l
    rw [hmiddle]
    exact ⟨rfl, rfl⟩
  have hbetween := between?_append bufferOpening.toList
    (size.toList ++ (bufferMiddle.toList ++ list.toList)) bufferClosing.toList
  simp only [List.append_assoc] at hbetween
  simp only [bytes?, String.toList_append, List.append_assoc, hbetween, Option.bind_eq_bind,
    Option.bind_some, List.dropWhile_append_of_pos hdigits, List.takeWhile_append_of_pos hdigits,
    (hrest _).1, (hrest _).2, dropPrefix?_append, hlist, List.append_nil, hsize, if_pos]

lemma decimal?_toString (n : Nat) : decimal? (toString n).toList = some n := by
  have hdigits : (toString n).toList = Nat.toDigits 10 n := Nat.toList_repr
  have hall : (Nat.toDigits 10 n).all Char.isDigit = true :=
    List.all_eq_true.2 fun c hc => Nat.isDigit_of_mem_toDigits (by omega) (by omega) hc
  rw [hdigits, decimal?, if_pos ⟨Nat.toDigits_ne_nil, hall⟩, Nat.ofDigitChars_ten_toDigits]

lemma not_mem_toString {c : Char} (hc : c.isDigit = false) (n : Nat) : c ∉ (toString n).toList := by
  intro h
  rw [isDigit_of_decimal? (decimal?_toString n) c h] at hc
  cases hc

/-- The numeral of a byte. -/
def numeral (x : UInt8) : List Char := (toString x.toNat).toList

lemma byte?_numeral (x : UInt8) : byte? (numeral x) = some x := by
  rw [byte?, numeral, decimal?_toString, Option.bind_some, if_pos x.toNat_lt]
  simp

lemma mapM_byte? (b : Bytes) : (b.map numeral).mapM byte? = some b := by
  induction b with
  | nil => rfl
  | cons x b ih =>
    rw [List.map_cons, List.mapM_cons, byte?_numeral, ih]
    rfl

lemma toList_byteList (b : Bytes) :
    (byteList b).toList = joinWithSeparator ',' (b.map numeral) := by
  rw [byteList, String.toList_intercalate, joinWithSeparator_eq_intercalate, List.map_map]
  rfl

/-- The numerals listed for bytes are those of the bytes, also where there are none: a list with a
numeral in it is not empty. -/
lemma listed_byteList (b : Bytes) : listed (byteList b).toList = b.map numeral := by
  rw [toList_byteList]
  cases b with
  | nil => rfl
  | cons x b =>
    have hsplit : splitAtSeparator ',' (joinWithSeparator ',' (numeral x :: b.map numeral)) =
        numeral x :: b.map numeral := by
      refine splitAtSeparator_joinWithSeparator fun cs hcs => ?_
      rw [← List.map_cons] at hcs
      obtain ⟨y, -, rfl⟩ := List.mem_map.1 hcs
      exact not_mem_toString rfl y.toNat
    have hne : joinWithSeparator ',' (numeral x :: b.map numeral) ≠ [] := by
      intro h
      rw [h, splitAtSeparator] at hsplit
      have hx := byte?_numeral x
      rw [← (List.cons.inj hsplit).1] at hx
      cases hx
    rw [List.map_cons, listed, if_neg hne, hsplit]

lemma fills_arrayBuffer (b : Bytes) : Fills (arrayBuffer b) b := by
  refine ⟨toString b.length, byteList b, rfl, ?_, ?_⟩
  · rw [decimal?_toString, listed_byteList, List.length_map]
  · rw [listed_byteList, mapM_byte?]

lemma not_mem_byteList (b : Bytes) : '\n' ∉ (byteList b).toList := by
  intro h
  rw [toList_byteList] at h
  rcases mem_joinWithSeparator h with h | ⟨cs, hcs, h⟩
  · cases h
  · obtain ⟨x, -, rfl⟩ := List.mem_map.1 hcs
    exact not_mem_toString rfl x.toNat h

lemma not_mem_arrayBuffer (b : Bytes) : '\n' ∉ (arrayBuffer b).toList := by
  have hparts : arrayBuffer b =
      bufferOpening ++ toString b.length ++ bufferMiddle ++ byteList b ++ bufferClosing := rfl
  simp only [hparts, String.toList_append, List.mem_append, not_or]
  exact ⟨⟨⟨⟨by decide, not_mem_toString rfl b.length⟩, by decide⟩, not_mem_byteList b⟩, by decide⟩

end WasmBundle.Proofs
