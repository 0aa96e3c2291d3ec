import WasmBundle.Wasm.Binary

/-!
# Naming conventions

Which import names the execution environment supplies, which must be found as artifacts, and under
which name a found module is registered. A raw namespace loses one leading module prefix; a plain
name is registered with the prefix in front, a name of the external standard library as it is.
-/

namespace WasmBundle

/-- Whether `part` stands somewhere in the text. -/
def occursIn (part : List Char) : List Char → Bool
  | [] => part.isEmpty
  | c :: r => part.isPrefixOf (c :: r) || occursIn part r

structure Conventions where
  /-- Stripped from namespaces and put in front of plain names. -/
  modulePrefix : String := "GRAIN$MODULE$"
  /-- Marks the names of the external standard library. -/
  stdlibMarker : String := "stdlib-external"
  /-- Names the execution environment supplies. -/
  runtimeModules : List String := ["grainRuntime", "grainBuiltins", "console", "env"]
  /-- Extension of compiled artifacts, without its dot. -/
  artifactExtension : String := "gr.wasm"
  deriving DecidableEq, Repr

instance : Inhabited Conventions := ⟨{}⟩

inductive Classification where
  | runtime
  | external (qualified : String)
  deriving DecidableEq, Repr

/-- The name an external import is registered under. -/
def Classification.qualified? : Classification → Option String
  | .runtime => none
  | .external q => some q

namespace Conventions

variable (v : Conventions)

def isRuntime (name : String) : Bool := v.runtimeModules.contains name

def isExternalStdlib (name : String) : Bool :=
  !v.stdlibMarker.toList.isEmpty && occursIn v.stdlibMarker.toList name.toList

def qualifiedName (name : String) : String :=
  if v.isExternalStdlib name then name else v.modulePrefix ++ name

def classify (name : String) : Classification :=
  if v.isRuntime name then .runtime else .external (v.qualifiedName name)

/-- A namespace without one leading module prefix. -/
def stripPrefix (space : String) : String :=
  if v.modulePrefix.toList.isPrefixOf space.toList then
    String.ofList (space.toList.drop v.modulePrefix.length)
  else space

/-- The distinct import names of a binary, in the order in which they are met. -/
def imports (wasm : Bytes) : Except Wasm.Malformed (List String) :=
  (Wasm.namespaces wasm).map fun spaces => (spaces.map v.stripPrefix).eraseDups

end Conventions

end WasmBundle
