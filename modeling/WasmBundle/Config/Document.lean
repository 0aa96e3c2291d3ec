import WasmBundle.Config
import WasmBundle.Toml.Document

/-!
# Configurations in TOML

A configuration file is a TOML document. All its fields are optional and unknown ones are ignored;
a field of the wrong type makes the document no configuration. The naming conventions are a table,
or an array with their values in order.
-/

namespace WasmBundle.Config

open Toml (Value)

def text? : Value → Option String
  | .string s => some s
  | _ => none

def path? (v : Value) : Option Path := (text? v).map Path.ofText

/-- The values of an array. -/
def elements? : Value → Option (List Value)
  | .array elements => some elements
  | .tables elements => some elements
  | _ => none

def texts? (v : Value) : Option (List String) := do (← elements? v).mapM text?

def strategyNamed? : String → Option ResolveStrategy
  | "probe" => some .probe
  | "index" => some .index
  | _ => none

/-- Tables and arrays that hold nothing. -/
def isHollow : Value → Bool
  | .array elements => elements.isEmpty
  | .tables elements => elements.isEmpty
  | .table _ entries => entries.isEmpty
  | _ => false

/-- A strategy is named by a text, or by the only key of a table that has nothing under it. -/
def strategy? : Value → Option ResolveStrategy
  | .string name => strategyNamed? name
  | .table _ [(name, v)] => if isHollow v then strategyNamed? name else none
  | _ => none

/-- A value if there is one, and the default otherwise. -/
def orDefault {α : Type} (read : Value → Option α) (default : α) : Option Value → Option α
  | some v => read v
  | none => some default

def conventionsOf? (field : String → Nat → Option Value) : Option Conventions := do
  let standard : Conventions := {}
  let modulePrefix ← orDefault text? standard.modulePrefix (field "module-prefix" 0)
  let stdlibMarker ← orDefault text? standard.stdlibMarker (field "stdlib-marker" 1)
  let runtimeModules ← orDefault texts? standard.runtimeModules (field "runtime-modules" 2)
  let artifactExtension ←
    orDefault text? standard.artifactExtension (field "artifact-extension" 3)
  return { modulePrefix, stdlibMarker, runtimeModules, artifactExtension }

/-- A date in place of the conventions has none of their fields. -/
def conventions? : Value → Option Conventions
  | .table _ entries => conventionsOf? fun key _ => entries.lookup key
  | .array elements => conventionsOf? fun _ position => elements[position]?
  | .tables elements => conventionsOf? fun _ position => elements[position]?
  | .moment _ => some {}
  | _ => none

def ofValue? : Value → Option Config
  | .table _ entries => do
    let grainHome ← orDefault (fun v => (path? v).map some) none (entries.lookup "grain-home")
    let includeDirs ←
      orDefault (fun v => (texts? v).map (List.map Path.ofText)) [] (entries.lookup "include-dirs")
    let strategy ← orDefault strategy? .probe (entries.lookup "resolve")
    let conventions ← orDefault conventions? {} (entries.lookup "conventions")
    return { grainHome, includeDirs, strategy, conventions }
  | _ => none

/-- The configuration a document describes, if it is valid. -/
def parse (document : String) : Except ConfigError Config :=
  match Toml.parse? document >>= ofValue? with
  | none => .error .unparsable
  | some c => c.validate.map fun _ => c

/-- Reads a configuration file and rebases it onto the directory of the file. -/
def load (read : Path → Except IoError Bytes) (path : Path) : Except ConfigError Config :=
  match read path with
  | .error e => .error (.unreadable e)
  | .ok bytes =>
    match Bytes.text? bytes with
    | none => .error (.unreadable .notText)
    | some document =>
      (parse document).map fun c =>
        match path.parent? with
        | some base => c.rebase base
        | none => c

end WasmBundle.Config
