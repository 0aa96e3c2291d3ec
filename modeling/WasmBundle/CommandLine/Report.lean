import WasmBundle.CommandLine.Program
import WasmBundle.Container.Format
import WasmBundle.DependencyRule
import WasmBundle.Script
import WasmBundle.Styling

/-!
# Reports

A request is carried out on a disk and answered by a report: what is shown, and the failure that
ended the command, if one did. Bundling first builds everything and then writes it, so a failure
before the end of building leaves no output behind.
-/

namespace WasmBundle.CommandLine

structure Report where
  shown : List Span := []
  failure : Option Failure := none
  deriving DecidableEq, Repr

/-- The report of work that shows something only if it succeeds. -/
def Attempt.report (work : Attempt (List Span)) : OnDisk Report := do
  match ← work.run with
  | .ok shown => return { shown }
  | .error f => return { failure := some f }

/-- A count or a size in a report. -/
def numeral (n : Nat) : String := toString n

/-! ## Bundling -/

/-- What bundling writes, and what it was built from. -/
structure Product where
  bytes : Bytes
  modules : Nat
  shim : Path
  report : List Path
  deriving DecidableEq, Repr

def encodeAs (format : OutputFormat) (b : Bundle) : Except Container.EncodeError Bytes :=
  match format with
  | .script => .ok (Bytes.utf8 (Script.render b))
  | .container => Container.encode b

/-- Everything up to the bytes of the output. -/
def build (launch : Launcher) (r : BundleRequest) : Attempt Product := do
  let program ← loadProgram launch r.source r.overrides
  let shim := r.shim.getD program.installation.runtimeShim
  let shimText ← orFail (.unreadableShim shim) (OnDisk.readText shim)
  let (b, report) ← program.bundle shimText
  let bytes ← orFail .tooLarge (pure (encodeAs r.format b))
  return { bytes, modules := b.modules.size, shim, report }

/-- The output of a source for which none is named: its `.wasm` ending dropped and that of the
format added. -/
def defaultOutput (source : Path) (format : OutputFormat) : Path :=
  (if isCompiled source then source.withoutExtension else source).append ("." ++ format.extension)

def BundleRequest.outputPath (r : BundleRequest) : Path :=
  r.output.getD (defaultOutput r.source r.format)

/-- Writes the output, then the dependency file. -/
def deliver (r : BundleRequest) (p : Product) : Attempt Unit := do
  orFail (.unwritable r.outputPath) (OnDisk.write r.outputPath p.bytes)
  match r.dependencyFile with
  | none => return ()
  | some file =>
    let rule := DependencyRule.render r.outputPath p.shim p.report
    orFail (.unwritable file) (OnDisk.write file (Bytes.utf8 rule))

def bundleShown (r : BundleRequest) (p : Product) : List Span :=
  [.boldColored .green "Bundled ", .bold r.source.text,
    .plain (" (" ++ numeral p.modules ++ " modules, " ++ numeral p.bytes.length ++ " bytes) -> " ++
      r.outputPath.text), .lineEnd]

def runBundle (launch : Launcher) (r : BundleRequest) : OnDisk Report :=
  Attempt.report do
    let product ← build launch r
    deliver r product
    return bundleShown r product

/-! ## Imports -/

def importShown (v : Conventions) (name : String) : List Span :=
  match v.classify name with
  | .runtime => [.plain name, .plain " (runtime)", .lineEnd]
  | .external qualified => [.colored .cyan name, .plain (" -> " ++ qualified), .lineEnd]

def runImports (binary : Path) (config : Option Path) : OnDisk Report :=
  Attempt.report do
    let v := (← configAt config (binary.parent?.getD ".")).conventions
    let bytes ← orFail (.unreadable binary) (OnDisk.read binary)
    let names ← orFail (.malformed binary) (pure (v.imports bytes))
    return names.flatMap (importShown v)

/-! ## Resolution -/

def searchPathShown (s : SearchPath) : List Span :=
  [.bold "Search path:", .lineEnd] ++
    s.roots.flatMap fun root => [.plain ("  " ++ root.text), .lineEnd]

def moduleShown (m : (String × Bytes) × Path) : List Span :=
  [.plain "  ", .colored .cyan m.1.1,
    .plain (" " ++ numeral m.1.2.length ++ " bytes <- " ++ m.2.text), .lineEnd]

def resolutionShown (r : Resolution) : List Span :=
  if r.modules.isEmpty then
    [.lineEnd, .boldColored .yellow "No external imports", .lineEnd]
  else
    [.lineEnd, .bold "Modules:", .lineEnd] ++ (r.modules.zip r.report).flatMap moduleShown

/-- The search path is shown even if the walk fails after that. -/
def runResolve (launch : Launcher) (source : Path) (o : Overrides) : OnDisk Report := do
  match ← (loadProgram launch source o).run with
  | .error f => return { failure := some f }
  | .ok program =>
    let shown := searchPathShown program.searchPath
    match ← program.resolution.run with
    | .error f => return { shown, failure := some f }
    | .ok r => return { shown := shown ++ resolutionShown r }

/-! ## Inspection -/

def entryShown (entry : String × Bytes) : List Span :=
  [.plain "  ", .colored .cyan entry.1, .plain (" " ++ numeral entry.2.length ++ " bytes"),
    .lineEnd]

def containerShown (b : Bundle) : List Span :=
  [.bold "Shim:", .plain (" " ++ numeral (Bytes.utf8 b.shim).length ++ " bytes"), .lineEnd,
    .bold "Root:", .plain (" " ++ numeral b.root.length ++ " bytes"), .lineEnd,
    .bold ("Modules (" ++ numeral b.modules.size ++ "):"), .lineEnd] ++
    b.modules.entries.flatMap entryShown

def runInspect (container : Path) : OnDisk Report :=
  Attempt.report do
    let bytes ← orFail (.unreadable container) (OnDisk.read container)
    let b ← orFail (.noContainer container) (pure (Container.decode bytes))
    return containerShown b

def Request.run (launch : Launcher) : Request → OnDisk Report
  | .bundle r => runBundle launch r
  | .imports binary config => runImports binary config
  | .resolve source o => runResolve launch source o
  | .inspect container => runInspect container

end WasmBundle.CommandLine
