import WasmBundle.Resolver

/-!
# Requests

What a user can ask for: bundling a program, listing the imports of a module, showing how imports
resolve, and showing what a bundle holds.
-/

namespace WasmBundle.CommandLine

inductive OutputFormat where
  | script
  | container
  deriving DecidableEq, Repr

def OutputFormat.extension : OutputFormat → String
  | .script => "js"
  | .container => "grpk"

/-- Settings that take precedence over those of a configuration file. -/
structure Overrides where
  /-- The file, if it is not the nearest one. -/
  config : Option Path := none
  grainHome : Option Path := none
  /-- Searched after the directories of the file. -/
  includeDirs : List Path := []
  strategy : Option ResolveStrategy := none
  deriving DecidableEq, Repr

structure BundleRequest where
  source : Path
  output : Option Path := none
  format : OutputFormat := .script
  shim : Option Path := none
  dependencyFile : Option Path := none
  overrides : Overrides := {}
  deriving DecidableEq, Repr

inductive Request where
  | bundle (r : BundleRequest)
  | imports (binary : Path) (config : Option Path)
  | resolve (source : Path) (overrides : Overrides)
  | inspect (container : Path)
  deriving DecidableEq, Repr

/-- A request, and the choice of colours that came with it. -/
structure Invocation where
  request : Request
  colors : Option String := none
  deriving DecidableEq, Repr

end WasmBundle.CommandLine
