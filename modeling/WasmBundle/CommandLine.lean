import WasmBundle.CommandLine.Arguments
import WasmBundle.CommandLine.Report
import WasmBundle.Disk.Devices

/-!
# The command line

A run of the program turns arguments and environment variables into a status and two texts, working
on a disk: status 0 for success, 1 for a command that failed and 2 for arguments that make no
request. What was written to a device for output comes before what is shown in the end.
-/

namespace WasmBundle.CommandLine

abbrev Environment := String → Option String

/-- Whether output is coloured. The variable `NO_COLOR` turns colours off whatever its value;
without a choice they are on for every terminal with a name but a dumb one. -/
def showsColors (environment : Environment) (choice : Option String) : Bool :=
  if (environment "NO_COLOR").isSome then false
  else
    match choice with
    | some "always" => true
    | some "never" => false
    | _ =>
      match environment "TERM" with
      | none => false
      | some terminal => terminal != "dumb"

structure Outcome where
  status : Nat
  output : String := ""
  errors : String := ""
  deriving DecidableEq, Repr

def versionText : String := "grainpack 0.1.0\n"

def usageText : String :=
  "Usage: grainpack [OPTIONS] <COMMAND>\n\n" ++
  "Commands:\n" ++
  "  bundle SOURCE   Compile a source file and bundle it with its dependencies\n" ++
  "  imports MODULE  List the imports of a compiled module\n" ++
  "  resolve SOURCE  Resolve the dependencies of a module without bundling\n" ++
  "  inspect BUNDLE  Show the contents of a binary bundle\n\n" ++
  "Options:\n" ++
  "  --color WHEN, -v, --verbose, -h, --help, -V, --version\n" ++
  "  bundle, resolve: --config FILE, --grain-home DIR, -I, --include DIR,\n" ++
  "    --resolve probe|index\n" ++
  "  bundle: -o, --output FILE, --format js|binary, --shim FILE, --dep-file FILE\n" ++
  "  imports: --config FILE\n"

def Stop.outcome : Stop → Outcome
  | .misuse e => { status := 2, errors := "error: " ++ e.message ++ "\n\n" ++ usageText }
  | .help => { status := 0, output := usageText }
  | .version => { status := 0, output := versionText }

def failureShown (f : Failure) : Span := .boldColored .red ("error: " ++ f.message ++ "\n")

/-- The text that was written to a device. -/
def deviceText (d : Disk) (device : Location) : String :=
  (d.written device).shown

def Report.outcome (colors : Bool) (d : Disk) (r : Report) : Outcome where
  status := if r.failure.isSome then 1 else 0
  output := deviceText d Disk.outputDevice ++ renderSpans colors r.shown
  errors :=
    deviceText d Disk.errorDevice ++ renderSpans colors (r.failure.toList.map failureShown)

/-- Runs the program. -/
def run (launch : Launcher) (environment : Environment) (arguments : List Bytes) :
    OnDisk Outcome := do
  match parse arguments with
  | .error stop => return stop.outcome
  | .ok invocation =>
    let report ← invocation.request.run launch
    return report.outcome (showsColors environment invocation.colors) (← get).disk

end WasmBundle.CommandLine
