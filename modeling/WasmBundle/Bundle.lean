import WasmBundle.Bytes
import WasmBundle.Increasing

/-!
# Bundles

A bundle is everything needed to run a root module: the text of the runtime shim, the modules it
needs under their qualified names, and the root module itself. A module table keeps its names in
increasing order, so that equal sets of modules are equal tables.
-/

namespace WasmBundle

namespace ModuleEntry

/-- The entry with the bytes of another one. -/
def refill (old new : String × Bytes) : String × Bytes := (old.1, new.2)

theorem fst_refill (old new : String × Bytes) : (refill old new).1 = old.1 := rfl

end ModuleEntry

structure ModuleTable where
  entries : List (String × Bytes) := []
  increasing : Increasing Prod.fst entries := by exact List.Pairwise.nil
  deriving DecidableEq

namespace ModuleTable

def empty : ModuleTable := {}

/-- Adds a module; one of the same name is replaced. -/
def insert (t : ModuleTable) (name : String) (bytes : Bytes) : ModuleTable where
  entries := Increasing.insert Prod.fst ModuleEntry.refill (name, bytes) t.entries
  increasing := Increasing.insert_increasing ModuleEntry.fst_refill _ t.increasing

def ofList (modules : List (String × Bytes)) : ModuleTable :=
  modules.foldl (fun t m => t.insert m.1 m.2) empty

def contains (t : ModuleTable) (name : String) : Bool := t.entries.any (·.1 == name)

def names (t : ModuleTable) : List String := t.entries.map (·.1)

def size (t : ModuleTable) : Nat := t.entries.length

end ModuleTable

structure Bundle where
  shim : String
  modules : ModuleTable
  root : Bytes
  deriving DecidableEq

end WasmBundle
