import WasmBundle.Shell.Tool.Editing.Machine
import WasmBundle.Shell.Tool.Lines

/-!
# Editing

The tool that edits its input line by line, as one text or every file for itself, and shows the
result or puts it in the place of the file.
-/

namespace WasmBundle.Shell.Editing

open Running Tool

def options : OptionTable where
  flags := ['n', 'E', 'r', 's', 'u', 'z', 'b', 'π', 'σ', 'λ']
  valued := ['e', 'f', 'l']
  optional := ['i']
  long := [("quiet", 'n'), ("silent", 'n'), ("regexp-extended", 'E'), ("expression", 'e'),
    ("file", 'f'), ("in-place", 'i'), ("separate", 's'), ("unbuffered", 'u'), ("null-data", 'z'),
    ("zero-terminated", 'z'), ("line-length", 'l'), ("binary", 'b'), ("posix", 'π'),
    ("sandbox", 'σ'), ("follow-symlinks", 'λ')]

def usage (name : String) : String :=
  "Usage: " ++ name ++ " [OPTION]... \x7bscript-only-if-no-other-script\x7d [input-file]...

  -n, --quiet, --silent
                 suppress automatic printing of pattern space
      --debug
                 annotate program execution
  -e script, --expression=script
                 add the script to the commands to be executed
  -f script-file, --file=script-file
                 add the contents of script-file to the commands to be executed
  --follow-symlinks
                 follow symlinks when processing in place
  -i[SUFFIX], --in-place[=SUFFIX]
                 edit files in place (makes backup if SUFFIX supplied)
  -l N, --line-length=N
                 specify the desired line-wrap length for the " ++ oldQuoted "l" ++ " command
  --posix
                 disable all GNU extensions.
  -E, -r, --regexp-extended
                 use extended regular expressions in the script
                 (for portability use POSIX -E).
  -s, --separate
                 consider files as separate rather than as a single,
                 continuous long stream.
      --sandbox
                 operate in sandbox mode (disable e/r/w commands).
  -u, --unbuffered
                 load minimal amounts of data from the input files and flush
                 the output buffers more often
  -z, --null-data
                 separate lines by NUL characters
      --help     display this help and exit
      --version  output version information and exit

If no -e, --expression, -f, or --file option is given, then the first
non-option argument is taken as the sed script to interpret.  All
remaining arguments are names of input files; if no input files are
specified, then the standard input is read.
"

/-- A part of a script: an argument, or the text of a file. -/
structure Chunk where
  file : Option String := none
  text : List Char

/-- The parts of the script that options give, or else the first operand, with the other operands;
the name of a file that cannot be read. -/
def chunks (i : Invocation) : Running (Except (String × IoError) (List Chunk × List String)) := do
  let mut all := []
  for (c, value) in i.options do
    if c = 'e' then all := all ++ [{ text := value.toList }]
    else if c = 'f' then
      match ← contentOf value with
      | .ok b => all := all ++ [{ file := some value, text := withoutEnd (chars b) : Chunk }]
      | .error e => return .error (value, e)
  if !all.isEmpty then return .ok (all, i.operands)
  else
    let first := i.operands.head?.toList.map fun o => { text := o.toList : Chunk }
    return .ok (first, i.operands.drop 1)

/-- Where in a script a number of characters leads, as messages tell it. -/
def scriptPlace : List Chunk → Nat → Nat → Bool → String
  | [], _, _, _ => ""
  | k :: rest, count, read, isAtEnd =>
    let number := if k.file.isNone then count + 1 else count
    if k.text.length < read ∧ !rest.isEmpty then
      scriptPlace rest number (read - (k.text.length + 1)) isAtEnd
    else
      match k.file with
      | some f =>
        let lines := (k.text.take (read - 1)).count '\n'
        "file " ++ f ++ " line " ++ toString (lines + 1)
      | none =>
        "-e expression #" ++ toString number ++ ", char " ++ toString (if isAtEnd then 0 else read)

/-- A message about a fault in a script, and the status of it. -/
def faultText (all : List Chunk) (f : Fault) (read : Nat) : String × Nat :=
  match f with
  | .badExpression .bareClass => (f.message, 4)
  | .missingLabel _ => (f.message, 4)
  | .unmatchedOpen => (scriptPlace all 0 read true ++ ": " ++ f.message, 1)
  | _ => (scriptPlace all 0 read false ++ ": " ++ f.message, 1)

/-- Whether a script says in its first line that nothing is shown by itself. -/
def isQuiet (all : List Chunk) : Bool :=
  match all with
  | k :: _ => lines k.text |>.head?.any (· == ['#', 'n'])
  | [] => false

def writtenFiles (program : List Instruction) : List String :=
  (program.filterMap fun i =>
    match i.verb with
    | .writeLine path => some path
    | .writeFirst path => some path
    | .substitute s => s.target
    | _ => none).eraseDups

def readFiles (program : List Instruction) : List String :=
  (program.filterMap fun i =>
    match i.verb with
    | .readFile path => some path
    | .readLine path => some path
    | _ => none).eraseDups

def isDeviceOfOutput (path : String) : Bool := path = "/dev/stdout" || path = "/dev/stderr"

/-- Empties the files that are written; the first one for which that fails. -/
def prepare : List String → Running (Option (String × IoError))
  | [] => return none
  | p :: rest => do
    if isDeviceOfOutput p then prepare rest
    else
      match ← writeTo p [] with
      | .ok () => prepare rest
      | .error e => return some (p, e)

def textsOf (paths : List String) : Running (List (String × List Char)) := do
  let found ← paths.mapM fun p => do
    match ← contentOf (if p = "/dev/stdin" then "-" else p) with
    | .ok b => return [(p, chars b)]
    | .error _ => return []
  return found.flatten

def writeCollected (e : Edit) : Running Unit := do
  for (path, w) in e.files do
    let b := octets (String.ofList w.text)
    if path = "/dev/stdout" then printBytes b
    else if path = "/dev/stderr" then
      let _ ← write 2 b
    else
      let _ ← writeTo path b

def backupName (suffix path : String) : String :=
  let base := baseName path
  let name :=
    if suffix.toList.contains '*' then base.intercalate (suffix.splitOn "*") else base ++ suffix
  if name.toList.contains '/' then name
  else
    let dir := path.toList.take (path.length - base.length)
    String.ofList dir ++ name

/-- Puts a new file in the place of another one, which is kept if there is a name for it. -/
def replaceFile (path suffix : String) (followsLinks : Bool) (b : Bytes) : Running Unit := do
  let place ← if followsLinks then entryBehind path else entryOf path
  match place, ← entryBehind path with
  | .ok (l, _), .ok (_, e) =>
    let mode ← modeOf e
    if suffix.isEmpty then setDisk ((← disk).unlink l)
    else
      match ← placeOf (backupName suffix path) with
      | .ok kept => setDisk (((← disk).unlink kept).moveTree l kept)
      | .error _ => setDisk ((← disk).unlink l)
    match (← disk).writeAt l b mode with
    | .ok d => setDisk d
    | .error _ => return ()
  | _, _ => return ()

/-- An input that can be read, or what is said of one that cannot. -/
inductive Source where
  | readable (name : String) (text : List Char)
  | missing (text : String) (status : Nat)
  /-- Reading it fails in a way that ends everything. -/
  | fatal (text : String)

def sourceOf (inPlace : Bool) (o : String) : Running Source := do
  match ← contentOf o with
  | .ok b => return .readable o (chars b)
  | .error .isDirectory =>
    if inPlace then
      return .missing ("couldn" ++ String.ofList [apostrophe] ++ "t edit " ++ o ++
        ": not a regular file") 4
    else return .fatal ("read error on " ++ o ++ ": " ++ IoError.isDirectory.reason)
  | .error e =>
    return .missing ("can" ++ String.ofList [apostrophe] ++ "t read " ++ o ++ ": " ++ e.reason) 2

/-- The inputs up to the first one that ends everything, and whether there is one. -/
def sources (name : String) (inPlace : Bool) :
    List String → Running (List (String × List Char) × Nat × Bool)
  | [] => return ([], 0, false)
  | o :: rest => do
    match ← sourceOf inPlace o with
    | .readable path text =>
      let (others, status, ends) ← sources name inPlace rest
      return ((path, text) :: others, status, ends)
    | .missing text status =>
      printError (name ++ ": " ++ text ++ "\n")
      let (others, later, ends) ← sources name inPlace rest
      return (others, max status later, ends)
    | .fatal text =>
      printError (name ++ ": " ++ text ++ "\n")
      return ([], 4, true)

def editEach (i : Invocation) (s : Setting) :
    Edit → List (String × List Char) → Running (Edit × Outcome)
  | e, [] => return (e, .done)
  | e, (path, text) :: rest => do
    let (e, outcome) := run s e.renewed (linesOf s.sign path text)
    let e ←
      match if outcome matches .failed _ then none else i.value? 'i' with
      | some suffix =>
        let b := octets (String.ofList e.shown.text)
        replaceFile path suffix (i.has 'λ') b
        pure { e with shown := {} }
      | none => pure e
    match outcome with
    | .done => editEach i s e rest
    | _ => return (e, outcome)

def editInputs (name : String) (i : Invocation) (all : List Chunk) (s : Setting) (e : Edit)
    (operands : List String) : Running Nat := do
  let (texts, status, _) ← sources name (i.has 'i') (inputs operands)
  let (e, outcome) ←
    if i.has 'i' ∨ i.has 's' then editEach i s e texts
    else pure (run s e (texts.flatMap fun t => linesOf s.sign t.1 t.2))
  printChars e.shown.text
  writeCollected e
  match outcome with
  | .done => return status
  | .quit 0 => return status
  | .quit n => return n
  | .failed f =>
    let (text, status) := faultText all f 0
    printError (name ++ ": " ++ text ++ "\n")
    return status

def runProgram (name : String) (i : Invocation) (all : List Chunk) (program : List Instruction)
    (operands : List String) : Running Nat := do
  match missingLabel? program with
  | some label =>
    printError (name ++ ": " ++ (Fault.missingLabel label).message ++ "\n")
    return 4
  | none =>
    let written := writtenFiles program
    match ← prepare written with
    | some (path, e) =>
      printError (name ++ ": couldn" ++ String.ofList [apostrophe] ++ "t open file " ++ path ++
        ": " ++ e.reason ++ "\n")
      return 4
    | none =>
      let additions ← textsOf (readFiles program)
      let sign := closingSign i
      let s : Setting :=
        { quiet := i.has 'n' || isQuiet all
          program := program.toArray
          sign
          width := ((i.value? 'l').bind Numeral.count?).getD 70
          additions
          inPlace := i.has 'i' }
      let e : Edit := { left := [], sources := additions.map fun a => (a.1, recordsOf sign a.2) }
      editInputs name i all s e operands

def edit : Tool := fun _ name arguments => do
  match Invocation.read options arguments with
  | .error e =>
    printError (name ++ ": " ++ e.message ++ "\n" ++ usage name)
    return 1
  | .ok i =>
    match ← chunks i with
    | .error (path, e) =>
      printError (name ++ ": couldn" ++ String.ofList [apostrophe] ++ "t open file " ++ path ++
        ": " ++ e.reason ++ "\n")
      return 4
    | .ok ([], _) =>
      printError (usage name)
      return 1
    | .ok (all, operands) =>
      let script := ['\n'].intercalate (all.map (·.text))
      match scriptOf? (i.has 'E' || i.has 'r') (i.has 'σ') script with
      | .error (f, read) =>
        let (text, status) := faultText all f read
        printError (name ++ ": " ++ text ++ "\n")
        return status
      | .ok program => runProgram name i all program operands

end WasmBundle.Shell.Editing
