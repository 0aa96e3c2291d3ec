import WasmBundle.Bytes

/-!
# Text of unknown origin

Bytes that need not be UTF-8 are read with a replacement character for every longest run that
begins a character but does not complete it. White space around a text is what Unicode says it is.
-/

namespace WasmBundle

/-- The ranges of the bytes that may follow the first byte of a character. -/
def continuationRanges? (first : UInt8) : Option (List (UInt8 × UInt8)) :=
  let any : UInt8 × UInt8 := (0x80, 0xbf)
  if first < 0x80 then some []
  else if first < 0xc2 then none
  else if first < 0xe0 then some [any]
  else if first = 0xe0 then some [(0xa0, 0xbf), any]
  else if first = 0xed then some [(0x80, 0x9f), any]
  else if first < 0xf0 then some [any, any]
  else if first = 0xf0 then some [(0x90, 0xbf), any, any]
  else if first < 0xf4 then some [any, any, any]
  else if first = 0xf4 then some [(0x80, 0x8f), any, any]
  else none

/-- How many of the bytes lie in the ranges, one after another. -/
def matching : List (UInt8 × UInt8) → Bytes → Nat
  | (low, high) :: ranges, b :: r => if low ≤ b ∧ b ≤ high then matching ranges r + 1 else 0
  | _, _ => 0

/-- The text of bytes behind the given number of them, which belong to the character before. -/
def lossyBehind : Nat → Bytes → List Char
  | _, [] => []
  | n + 1, _ :: r => lossyBehind n r
  | 0, b :: r =>
    match continuationRanges? b with
    | none => '\ufffd' :: lossyBehind 0 r
    | some ranges =>
      let n := matching ranges r
      let c := if n = ranges.length then Bytes.text? (b :: r.take n) else none
      (c.map String.toList).getD ['\ufffd'] ++ lossyBehind n r

/-- The text of bytes, with replacement characters where they are no UTF-8. -/
def lossyText (b : Bytes) : List Char := lossyBehind 0 b

theorem lossyBehind_eq (n : Nat) (b : Bytes) : lossyBehind n b = lossyText (b.drop n) := by
  induction b generalizing n with
  | nil => cases n <;> rfl
  | cons c r ih =>
    cases n with
    | zero => rfl
    | succ n => exact ih n

/-- The text that bytes are shown as. -/
def Bytes.shown (b : Bytes) : String := String.ofList (lossyText b)

/-- The characters that are white space. -/
def isWhiteSpace (c : Char) : Bool :=
  let n := c.toNat
  (9 ≤ n ∧ n ≤ 13) ∨ n = 0x20 ∨ n = 0x85 ∨ n = 0xa0 ∨ n = 0x1680 ∨ (0x2000 ≤ n ∧ n ≤ 0x200a) ∨
    n = 0x2028 ∨ n = 0x2029 ∨ n = 0x202f ∨ n = 0x205f ∨ n = 0x3000

/-- A text without the white space around it. -/
def trimWhiteSpace (cs : List Char) : List Char :=
  ((cs.dropWhile isWhiteSpace).reverse.dropWhile isWhiteSpace).reverse

end WasmBundle
