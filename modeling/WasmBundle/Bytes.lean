/-!
# Byte strings

A byte string is a list of bytes. Text enters and leaves byte strings as UTF-8; `text?` reads back
exactly what `utf8` writes. Hexadecimal is the notation of offsets, checksums and byte dumps.
-/

namespace WasmBundle

abbrev Bytes := List UInt8

namespace Bytes

/-- The UTF-8 form of a text. -/
def utf8 (s : String) : Bytes := s.toUTF8.data.toList

/-- The text whose UTF-8 form is given, if there is one. -/
def text? (b : Bytes) : Option String := String.fromUTF8? ⟨b.toArray⟩

/-- Whether bytes are the UTF-8 form of a text. -/
def isText (b : Bytes) : Bool := (text? b).isSome

@[simp] theorem text?_utf8 (s : String) : text? (utf8 s) = some s := by
  have h : (⟨(utf8 s).toArray⟩ : ByteArray) = s.toByteArray := by simp [utf8, String.toUTF8]
  rw [text?, h, String.fromUTF8?, dif_pos s.isValidUTF8]
  rfl

theorem utf8_of_text? {b : Bytes} {s : String} (h : text? b = some s) : utf8 s = b := by
  unfold text? String.fromUTF8? at h
  split at h
  · cases h; simp [utf8, String.toUTF8, String.fromUTF8]
  · cases h

theorem text?_eq_some_iff {b : Bytes} {s : String} : text? b = some s ↔ b = utf8 s :=
  ⟨fun h => (utf8_of_text? h).symm, fun h => h ▸ text?_utf8 s⟩

@[simp] theorem isText_utf8 (s : String) : isText (utf8 s) = true := by simp [isText]

theorem isText_iff {b : Bytes} : isText b = true ↔ ∃ s, b = utf8 s := by
  simp only [isText, Option.isSome_iff_exists, text?_eq_some_iff]

/-- A number in lowercase hexadecimal digits, without padding. -/
def hexNumeral (n : Nat) : String := String.ofList (Nat.toDigits 16 n)

/-- Two lowercase hexadecimal digits a byte. -/
def hexDump (b : Bytes) : String :=
  String.ofList (b.flatMap fun x => [Nat.digitChar (x.toNat / 16), Nat.digitChar (x.toNat % 16)])

/-- The value of a hexadecimal digit in either case. -/
def hexValue? (c : Char) : Option Nat :=
  if '0' ≤ c ∧ c ≤ '9' then some (c.toNat - '0'.toNat)
  else if 'a' ≤ c ∧ c ≤ 'f' then some (c.toNat - 'a'.toNat + 10)
  else if 'A' ≤ c ∧ c ≤ 'F' then some (c.toNat - 'A'.toNat + 10)
  else none

/-- Reads back a hexadecimal dump. -/
def ofHexDump? : List Char → Option Bytes
  | [] => some []
  | a :: b :: r => do
    let x ← hexValue? a
    let y ← hexValue? b
    let rest ← ofHexDump? r
    return (16 * x + y).toUInt8 :: rest
  | [_] => none

end Bytes

end WasmBundle
