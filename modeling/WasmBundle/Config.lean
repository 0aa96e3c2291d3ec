import WasmBundle.Conventions
import WasmBundle.Path.Ancestors
import WasmBundle.Resolver

/-!
# Configurations

An installation has the compiler, the runtime shim and the compiled standard library at fixed places
below its directory. A configuration says where the installation is, which directories are searched
beside the source's own, how they are searched and how imports are named. Paths in a configuration
file are relative to the directory of the file, so a configuration is rebased onto that directory
after reading.
-/

namespace WasmBundle

/-- A Grain installation. -/
structure Installation where
  root : Path
  deriving DecidableEq, Repr

namespace Installation

def compiler (i : Installation) : Path := i.root.join "node_modules/.bin/grain"

def runtimeShim (i : Installation) : Path :=
  i.root.join "runtime/dist/grain-runtime-browser.js"

def stdlibDir (i : Installation) : Path := i.root.join "stdlib"

end Installation

/-- Why a configuration is not valid. -/
inductive ConfigFault where
  | emptyIncludeDir
  | emptyExtension
  | dottedExtension (extension : String)
  deriving DecidableEq, Repr

def ConfigFault.text : ConfigFault → String
  | .emptyIncludeDir => "include-dirs entries must not be empty"
  | .emptyExtension => "artifact-extension must not be empty"
  | .dottedExtension extension => "artifact-extension must not start with '.': " ++ extension

inductive ConfigError where
  | unreadable (cause : IoError)
  | unparsable
  | invalid (fault : ConfigFault)
  | missingField (name : String)
  deriving DecidableEq, Repr

def ConfigError.message : ConfigError → String
  | .unreadable cause => "Failed to read config file: " ++ cause.message
  | .unparsable => "Failed to parse config"
  | .invalid fault => "Invalid config: " ++ fault.text
  | .missingField name => "Missing required field: " ++ name

structure Config where
  grainHome : Option Path := none
  includeDirs : List Path := []
  strategy : ResolveStrategy := .probe
  conventions : Conventions := {}
  deriving DecidableEq, Repr

namespace Config

/-- The first fault: directories come before the extension. -/
def validate (c : Config) : Except ConfigError Unit :=
  let extension := c.conventions.artifactExtension
  if c.includeDirs.any Path.isEmpty then .error (.invalid .emptyIncludeDir)
  else if extension.toList = [] then .error (.invalid .emptyExtension)
  else if extension.toList.head? = some '.' then .error (.invalid (.dottedExtension extension))
  else .ok ()

theorem validate_eq_ok_iff (c : Config) : c.validate = .ok () ↔
    (∀ dir ∈ c.includeDirs, dir.isEmpty = false) ∧ c.conventions.artifactExtension.toList ≠ [] ∧
      c.conventions.artifactExtension.toList.head? ≠ some '.' := by
  have hdirs : (∀ dir ∈ c.includeDirs, dir.isEmpty = false) ↔
      c.includeDirs.any Path.isEmpty = false := by simp
  rw [validate, hdirs]
  split
  · rename_i hempty
    simp [hempty]
  · rename_i hnonempty
    split
    · rename_i hextension
      simp [hextension]
    · rename_i hextension
      split
      · rename_i hdotted
        simp [hdotted]
      · rename_i hplain
        simp [hnonempty, hextension, hplain]

/-- Makes relative paths relative to `base`. -/
def rebase (c : Config) (base : Path) : Config :=
  { c with
    grainHome := c.grainHome.map base.join
    includeDirs := c.includeDirs.map base.join }

def installation (c : Config) : Except ConfigError Installation :=
  match c.grainHome with
  | some home => .ok ⟨home⟩
  | none => .error (.missingField "grain-home")

/-- The search path of a source. -/
def searchPath (c : Config) (source : Path) : Except ConfigError SearchPath :=
  c.installation.map fun home => .forSource source c.includeDirs home.stdlibDir

/-- The name of configuration files. -/
def fileName : Path := "grainpack.toml"

/-- The nearest configuration file in a directory or above it. -/
def find? (isFile : Path → Bool) (dir : Path) : Option Path :=
  (dir.ancestors.map fun d => d.join fileName).find? isFile

end Config

end WasmBundle
