import WasmBundle.Bundle
import WasmBundle.Container.Checksum
import WasmBundle.Container.Field

/-!
# The container format

A container is a header and a payload. The header holds four magic bytes, the version and the
checksum of the payload. The payload holds the shim, the number of modules, each module's name and
bytes in increasing order of names, and the root module. Reading accepts the modules in any order
and nothing after the root module.
-/

namespace WasmBundle.Container

def magic : Bytes := [0x47, 0x52, 0x50, 0x4b]

/-- The size of the header in bytes. -/
def headerSize : Nat := 12

def entryFields (entry : String × Bytes) : Except EncodeError Bytes := do
  let name ← Field.text entry.1
  return name ++ Field.blob entry.2

def payload (b : Bundle) : Except EncodeError Bytes := do
  let shim ← Field.text b.shim
  let count ← Field.size32 "module count" b.modules.size
  let entries ← b.modules.entries.mapM entryFields
  return shim ++ count ++ entries.flatten ++ Field.blob b.root

/-- A payload with the header in front. -/
def withHeader (sum : Bytes → UInt32) (payload : Bytes) : Bytes :=
  magic ++ Field.u32 currentVersion ++ Field.u32 (sum payload) ++ payload

/-- The container of a bundle, for any checksum. -/
def encodeWith (sum : Bytes → UInt32) (b : Bundle) : Except EncodeError Bytes :=
  (payload b).map (withHeader sum)

/-- The magic bytes, the version and the checksum of the rest, in this order. -/
def readHeader (sum : Bytes → UInt32) : Reading Unit := do
  let found ← Reading.slice 4
  if found ≠ magic then Reading.fail (.invalidMagic found)
  else
    let version ← Reading.u32
    if version ≠ currentVersion then Reading.fail (.unsupportedVersion version)
    else
      let stored ← Reading.u32
      let computed ← fun r => (.ok (sum r.rest), r)
      if stored ≠ computed then Reading.fail (.checksumMismatch stored computed) else pure ()

/-- Adds as many modules as are announced, each under a name that is new. -/
def readModules : Nat → ModuleTable → Reading ModuleTable
  | 0, t => pure t
  | n + 1, t => do
    let name ← Reading.text
    let bytes ← Reading.blob
    if t.contains name then Reading.fail (.duplicateModule name)
    else readModules n (t.insert name bytes)

def readPayload : Reading Bundle := do
  let shim ← Reading.text
  let count ← Reading.u32
  let modules ← readModules count.toNat .empty
  let root ← Reading.blob
  let left ← Reading.remaining
  if 0 < left then Reading.fail (.trailingBytes left) else pure ⟨shim, modules, root⟩

def readBundle (sum : Bytes → UInt32) : Reading Bundle := do
  readHeader sum
  readPayload

/-- The bundle a container holds, for any checksum. -/
def decodeWith (sum : Bytes → UInt32) (data : Bytes) : Except DecodeError Bundle :=
  (readBundle sum (.start data)).1

def encode (b : Bundle) : Except EncodeError Bytes := encodeWith checksum b

def decode (data : Bytes) : Except DecodeError Bundle := decodeWith checksum data

end WasmBundle.Container
