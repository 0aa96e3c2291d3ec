import WasmBundle.Bytes

/-!
# Faults of a binary module

A binary that cannot be read has a fault: a cause, and the offset at which it was met. The wording
of every cause is in `Cause.text`.
-/

namespace WasmBundle.Wasm

/-- The integer encodings of the format. -/
inductive IntegerFormat where
  | unsigned32
  | unsigned64
  | signed33
  deriving DecidableEq, Repr

/-- Sections that hold one item and nothing after it. -/
inductive SingleItem where
  | start
  | dataCount
  | componentStart
  deriving DecidableEq, Repr

/-- The two kinds of binary. -/
inductive Kind where
  | module
  | component
  deriving DecidableEq, Repr

inductive Cause where
  | unexpectedEnd
  | badMagic (actual : Bytes)
  | unknownVersion (word : Nat)
  | integerTooLong (format : IntegerFormat)
  | integerTooLarge (format : IntegerFormat)
  | sectionId
  | sectionTooLarge
  | nestedTooLarge (kind : Kind)
  | sectionSizeMismatch
  | unexpectedContent (item : SingleItem)
  | trailingCode
  | stringSize
  | stringEncoding
  | tableFlags
  | memoryFlags
  | globalFlags
  | tagAttributes
  | externalKind (byte : UInt8)
  | abstractHeapType
  | heapType
  | referenceType
  | valueType
  | typeIndex
  | startArguments
  | startResults
  deriving DecidableEq, Repr

/-- Why and where a binary cannot be read. -/
structure Malformed where
  cause : Cause
  offset : Nat
  deriving DecidableEq, Repr

/-- The four bytes every binary starts with. -/
def magic : Bytes := [0x00, 0x61, 0x73, 0x6d]

/-- A list of bytes, one indented hexadecimal number a line. -/
def byteListing (b : Bytes) : String :=
  "[\n" ++ String.join (b.map fun x => "    0x" ++ Bytes.hexNumeral x.toNat ++ ",\n") ++ "]"

/-- A hexadecimal number with its marker, set to the right of a field of ten characters. -/
def versionField (word : Nat) : String :=
  let text := "0x" ++ Bytes.hexNumeral word
  String.ofList (List.replicate (10 - text.length) ' ') ++ text

def IntegerFormat.name : IntegerFormat → String
  | .unsigned32 => "var_u32"
  | .unsigned64 => "var_u64"
  | .signed33 => "var_s33"

def SingleItem.name : SingleItem → String
  | .start => "start"
  | .dataCount => "data count"
  | .componentStart => "component start"

/-- What a nested binary's section is called; the name of a component keeps a blank at its end. -/
def Kind.sectionName : Kind → String
  | .module => "module"
  | .component => "component "

def Cause.text : Cause → String
  | .unexpectedEnd => "unexpected end-of-file"
  | .badMagic actual =>
    "magic header not detected: bad magic number - expected=" ++ byteListing magic ++
      " actual=" ++ byteListing actual
  | .unknownVersion word => "unknown binary version: " ++ versionField word
  | .integerTooLong format => "invalid " ++ format.name ++ ": integer representation too long"
  | .integerTooLarge format => "invalid " ++ format.name ++ ": integer too large"
  | .sectionId => "malformed section id"
  | .sectionTooLarge => "section too large"
  | .nestedTooLarge kind => kind.sectionName ++ " section is too large"
  | .sectionSizeMismatch => "section size mismatch: unexpected data at the end of the section"
  | .unexpectedContent item => "unexpected content in the " ++ item.name ++ " section"
  | .trailingCode => "trailing bytes at end of section"
  | .stringSize => "string size out of bounds"
  | .stringEncoding => "malformed UTF-8 encoding"
  | .tableFlags => "invalid table resizable limits flags"
  | .memoryFlags => "invalid memory limits flags"
  | .globalFlags => "malformed global flags"
  | .tagAttributes => "invalid tag attributes"
  | .externalKind byte =>
    "invalid leading byte (0x" ++ Bytes.hexNumeral byte.toNat ++ ") for external kind"
  | .abstractHeapType => "invalid abstract heap type"
  | .heapType => "invalid heap type"
  | .referenceType => "malformed reference type"
  | .valueType => "invalid value type"
  | .typeIndex => "type index greater than implementation limits"
  | .startArguments => "start function arguments size is out of bounds"
  | .startResults => "start function results size is out of bounds"

/-- The cause, then the offset in hexadecimal. -/
def Malformed.detail (e : Malformed) : String :=
  e.cause.text ++ " (at offset 0x" ++ Bytes.hexNumeral e.offset ++ ")"

def Malformed.message (e : Malformed) : String := "Malformed module: " ++ e.detail

end WasmBundle.Wasm
