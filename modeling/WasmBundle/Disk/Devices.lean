import WasmBundle.Disk

/-!
# Devices

Places where bytes are written to without being kept as a file keeps them. What is written to the
devices for output stays in them.
-/

namespace WasmBundle.Disk

/-- The location of names that are texts. -/
def locationOf (names : List String) : Location := names.map Bytes.utf8

/-- The devices for output. -/
def outputDevice : Location := locationOf ["dev", "stdout"]

def errorDevice : Location := locationOf ["dev", "stderr"]

/-- The devices, with what becomes of what is written to them. -/
def devices : List (Location × FileKind) :=
  [(locationOf ["dev", "null"], .null), (locationOf ["dev", "full"], .full),
    (locationOf ["dev", "stdin"], .null), (locationOf ["dev", "tty"], .null),
    (locationOf ["dev", "zero"], .zeros), (outputDevice, .channel), (errorDevice, .channel)]

/-- What was written to a device. -/
def written (d : Disk) (device : Location) : Bytes :=
  match d.node? device with
  | some (.file _ f) => if f.kind = .channel then f.bytes else []
  | _ => []

end WasmBundle.Disk
