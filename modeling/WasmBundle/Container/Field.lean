import WasmBundle.Bytes

/-!
# Fields of a container

Numbers stand in a container with their lowest byte first. A text is the length of its UTF-8 form
in four bytes and that form; a blob is its length in eight bytes and its bytes. `FieldReader` reads
fields one after another from a fixed input. A read that fails leaves the length in front of the
field consumed if the length itself could be read.
-/

namespace WasmBundle.Container

/-- The lowest `k` bytes of a number, the lowest first. -/
def littleEndian : Nat → Nat → Bytes
  | 0, _ => []
  | k + 1, n => (n % 256).toUInt8 :: littleEndian k (n / 256)

def ofLittleEndian : Bytes → Nat
  | [] => 0
  | b :: r => b.toNat + 256 * ofLittleEndian r

/-- A length or count that does not fit its field. -/
inductive EncodeError where
  | tooLarge (what : String) (length : Nat)
  deriving DecidableEq, Repr

def EncodeError.message : EncodeError → String
  | .tooLarge what length =>
    what ++ " is too large for the container: " ++ toString length ++ " exceeds u32::MAX"

namespace Field

def u32 (n : UInt32) : Bytes := littleEndian 4 n.toNat

def u64 (n : UInt64) : Bytes := littleEndian 8 n.toNat

/-- A length or count in four bytes, if it fits. -/
def size32 (what : String) (n : Nat) : Except EncodeError Bytes :=
  if n < UInt32.size then .ok (littleEndian 4 n) else .error (.tooLarge what n)

def text (s : String) : Except EncodeError Bytes := do
  let body := Bytes.utf8 s
  let size ← size32 "string" body.length
  return size ++ body

def blob (b : Bytes) : Bytes := littleEndian 8 b.length ++ b

end Field

inductive DecodeError where
  | unexpectedEnd (offset : Nat)
  | invalidUtf8 (offset : Nat)
  | invalidMagic (found : Bytes)
  | unsupportedVersion (version : UInt32)
  | checksumMismatch (stored computed : UInt32)
  | duplicateModule (name : String)
  | trailingBytes (count : Nat)
  deriving DecidableEq, Repr

def currentVersion : UInt32 := 1

def DecodeError.message : DecodeError → String
  | .unexpectedEnd offset => "Unexpected end of bundle at offset " ++ toString offset
  | .invalidUtf8 offset => "Invalid UTF-8 string at offset " ++ toString offset
  | .invalidMagic found =>
    "Invalid magic number: expected GRPK, got [" ++
      ", ".intercalate (found.map fun b => toString b.toNat) ++ "]"
  | .unsupportedVersion version =>
    "Unsupported version: " ++ toString version.toNat ++
      " (current: " ++ toString currentVersion.toNat ++ ")"
  | .checksumMismatch stored computed =>
    "Checksum mismatch: expected 0x" ++ Bytes.hexNumeral stored.toNat ++
      ", got 0x" ++ Bytes.hexNumeral computed.toNat
  | .duplicateModule name => "Duplicate module " ++ name
  | .trailingBytes count => toString count ++ " trailing bytes after bundle"

/-- The unread bytes of an input, and how many have been read. -/
structure FieldReader where
  offset : Nat
  rest : Bytes
  deriving DecidableEq, Repr

def FieldReader.start (data : Bytes) : FieldReader := ⟨0, data⟩

def FieldReader.remaining (r : FieldReader) : Nat := r.rest.length

/-- A reading gives a value or an error, and the reader as it is left in either case. -/
abbrev Reading (α : Type) := FieldReader → Except DecodeError α × FieldReader

namespace Reading

instance : Monad Reading where
  pure x := fun r => (.ok x, r)
  bind m f := fun r =>
    match m r with
    | (.error e, r') => (.error e, r')
    | (.ok x, r') => f x r'

def fail {α : Type} (e : DecodeError) : Reading α := fun r => (.error e, r)

def offset : Reading Nat := fun r => (.ok r.offset, r)

def remaining : Reading Nat := fun r => (.ok r.remaining, r)

/-- The next `n` bytes; nothing is consumed if there are fewer. -/
def slice (n : Nat) : Reading Bytes := fun r =>
  if n ≤ r.rest.length then (.ok (r.rest.take n), ⟨r.offset + n, r.rest.drop n⟩)
  else (.error (.unexpectedEnd r.offset), r)

def u32 : Reading UInt32 := do
  let b ← slice 4
  pure (UInt32.ofNat (ofLittleEndian b))

def u64 : Reading UInt64 := do
  let b ← slice 8
  pure (UInt64.ofNat (ofLittleEndian b))

def text : Reading String := do
  let n ← u32
  let start ← offset
  let b ← slice n.toNat
  match Bytes.text? b with
  | some s => pure s
  | none => fail (.invalidUtf8 start)

def blob : Reading Bytes := do
  let n ← u64
  slice n.toNat

end Reading

end WasmBundle.Container
