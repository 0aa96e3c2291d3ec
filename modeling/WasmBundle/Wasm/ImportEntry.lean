import WasmBundle.Wasm.Reader

/-!
# Import entries

An import entry is a namespace, a field and a description of the imported item. The description is
read for its length alone: `importEntry` gives the namespace.

An abstract type byte that is none is reported under the name of the outermost type around it, so
each reader of types takes the cause to report.
-/

namespace WasmBundle.Wasm.Reader

/-- The byte of an abstract heap type. -/
def abstractType (bad : Cause) : Reader Unit := do
  let start ← offset
  let b ← byte
  if 0x68 ≤ b ∧ b ≤ 0x75 then pure () else fail bad start

/-- The greatest number of types a binary may have. -/
def typeLimit : Nat := 0x100000

/-- A type index, or an abstract type, which may be marked as shared. -/
def heapType (bad badShared : Cause) : Reader Unit := fun c =>
  match s33 c with
  | .error e => .error e
  | .ok (index, d) =>
    if 0 ≤ index then
      if index < typeLimit then .ok ((), d) else .error ⟨.typeIndex, d.offset⟩
    else
      match c.rest with
      | 0x65 :: r => abstractType badShared ⟨c.offset + 1, r⟩
      | _ => abstractType bad c

/-- A heap type, alone or after a byte that says whether null belongs to the type. -/
def referenceType (outer : Option Cause) : Reader Unit := do
  let b ← peek
  if b = 0x63 ∨ b = 0x64 then
    let _ ← byte
    heapType (outer.getD .heapType) (outer.getD .abstractHeapType)
  else heapType (outer.getD .referenceType) (outer.getD .referenceType)

/-- A number or vector type, or a reference type. -/
def valueType : Reader Unit := do
  let b ← peek
  if 0x7b ≤ b ∧ b ≤ 0x7f then
    let _ ← byte
    pure ()
  else referenceType (some .valueType)

/-- A flags byte, which may use only the lowest bits. -/
def flags (bits : Nat) (bad : Cause) : Reader Nat := do
  let start ← offset
  let b ← byte
  if b.toNat < Nat.pow 2 bits then pure b.toNat else fail bad start

/-- A minimum, and a maximum if the lowest flag says so, in the width the third flag says. -/
def limits (flags : Nat) : Reader Unit := do
  let bound := if flags.testBit 2 then u64 else u32
  let _ ← bound
  if flags.testBit 0 then
    let _ ← bound
    pure ()
  else pure ()

def tableType : Reader Unit := do
  referenceType none
  limits (← flags 3 .tableFlags)

def memoryType : Reader Unit := do
  let f ← flags 4 .memoryFlags
  limits f
  if f.testBit 3 then
    let _ ← u32
    pure ()
  else pure ()

def globalType : Reader Unit := do
  valueType
  let _ ← flags 2 .globalFlags
  pure ()

def tagType : Reader Unit := do
  let _ ← flags 0 .tagAttributes
  let _ ← u32
  pure ()

/-- The kind of the imported item and its type. -/
def externalType : Reader Unit := do
  let start ← offset
  let kind ← byte
  match kind with
  | 0 =>
    let _ ← u32
    pure ()
  | 1 => tableType
  | 2 => memoryType
  | 3 => globalType
  | 4 => tagType
  | _ => fail (.externalKind kind) start

/-- The namespace of an import entry. -/
def importEntry : Reader String := do
  let space ← string
  let _ ← string
  externalType
  pure space

end WasmBundle.Wasm.Reader
