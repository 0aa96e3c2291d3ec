import WasmBundle.Disk.Session
import WasmBundle.Text

/-!
# Compilation

A compiler is a program that is run with the arguments `compile` and a source file, and writes the
module next to the source, under its name with `.wasm` added. How a program is run is left open: a
launcher says what a program does on a disk.
-/

namespace WasmBundle

/-- What a program that has ended leaves behind. -/
structure Finished where
  success : Bool
  output : Bytes := []
  errors : Bytes := []
  deriving DecidableEq, Repr

/-- Runs the program at a path with arguments, or says why it cannot be started. -/
abbrev Launcher := Path → List Bytes → OnDisk (Except IoError Finished)

inductive CompileError where
  | spawn (program : Path) (cause : IoError)
  | failed (source : Path) (errors : String)
  | output (path : Path) (cause : IoError)
  deriving DecidableEq, Repr

def CompileError.message : CompileError → String
  | .spawn program cause => "Failed to run compiler " ++ program.text ++ ": " ++ cause.message
  | .failed source errors => "Compilation of " ++ source.text ++ " failed: " ++ errors
  | .output path cause =>
    "Failed to read compiled module " ++ path.text ++ ": " ++ cause.message

/-- Where the module of a source is written. -/
def compiledPath (source : Path) : Path := source.append ".wasm"

/-- Compiles a source and reads the module. -/
def compile (launch : Launcher) (program source : Path) : OnDisk (Except CompileError Bytes) := do
  match ← launch program [Bytes.utf8 "compile", source.bytes] with
  | .error e => return .error (.spawn program e)
  | .ok finished =>
    if finished.success then
      match ← OnDisk.read (compiledPath source) with
      | .error e => return .error (.output (compiledPath source) e)
      | .ok bytes => return .ok bytes
    else
      return .error (.failed source (String.ofList (trimWhiteSpace finished.errors.shown.toList)))

end WasmBundle
