import WasmBundle.Bundling
import WasmBundle.CommandLine.Failure
import WasmBundle.CommandLine.Request
import WasmBundle.Config.Document

/-!
# Loading programs

A program is loaded from its source: the configuration is found and overridden, the installation
and the search path follow from it, and the root module is read, or compiled first. Loading changes
nothing on the disk but what the compiler does.
-/

namespace WasmBundle.CommandLine

/-- Work on a disk that can fail. -/
abbrev Attempt := ExceptT Failure OnDisk

/-- Turns an error into a failure. -/
def orFail {ε α : Type} (failure : ε → Failure) (work : OnDisk (Except ε α)) : Attempt α :=
  ExceptT.mk do
    match ← work with
    | .error e => return .error (failure e)
    | .ok a => return .ok a

/-- The nearest configuration file in a directory or above it. -/
def nearestConfig (dir : Path) : OnDisk (Option Path) :=
  OnDisk.ask (dir.ancestors.map fun d => .probe (d.join Config.fileName)) fun d =>
    Config.find? d.isFile dir

def loadConfig (path : Path) : Attempt Config :=
  orFail (.config path) (OnDisk.ask [.reading path] fun d => Config.load d.read path)

/-- The configuration in a given file, or else in the nearest one, if there is any. -/
def configAt (file : Option Path) (dir : Path) : Attempt Config := do
  match file with
  | some path => loadConfig path
  | none =>
    match ← nearestConfig dir with
    | some path => loadConfig path
    | none => return {}

/-- The configuration with the overriding settings. -/
def Overrides.apply (o : Overrides) (c : Config) : Config :=
  { c with
    grainHome := o.grainHome.or c.grainHome
    includeDirs := c.includeDirs ++ o.includeDirs
    strategy := o.strategy.getD c.strategy }

def configure (source : Path) (o : Overrides) : Attempt Config := do
  let config := o.apply (← configAt o.config (SearchPath.sourceDirectory source))
  orFail .setting (pure config.validate)
  return config

/-- Whether a source is a module already. -/
def isCompiled (source : Path) : Bool := source.extension? = some (Bytes.utf8 "wasm")

def loadRoot (launch : Launcher) (i : Installation) (source : Path) : Attempt Bytes :=
  if isCompiled source then orFail (.unreadable source) (OnDisk.read source)
  else orFail .compilation (compile launch i.compiler source)

structure Program where
  config : Config
  installation : Installation
  searchPath : SearchPath
  root : Bytes

def loadProgram (launch : Launcher) (source : Path) (o : Overrides) : Attempt Program := do
  let config ← configure source o
  let installation ← orFail .setting (pure config.installation)
  let searchPath ← orFail .setting (pure (config.searchPath source))
  let root ← loadRoot launch installation source
  return { config, installation, searchPath, root }

namespace Program

/-- What the root module needs. -/
def resolution (p : Program) : Attempt Resolution :=
  orFail .walk do
    let outcome :=
      walk (← get).disk.source p.config.conventions p.config.strategy p.searchPath p.root
    OnDisk.consult outcome.trace
    return outcome.answer

/-- The bundle of the program with a shim, and the artifacts in it. -/
def bundle (p : Program) (shim : String) : Attempt (Bundle × List Path) :=
  orFail .walk do
    let outcome :=
      WasmBundle.bundle (← get).disk.source p.config.conventions p.config.strategy p.searchPath
        shim p.root
    OnDisk.consult outcome.trace
    return outcome.answer

end Program

end WasmBundle.CommandLine
