import WasmBundle.Shell.Tool.Lines

/-!
# Counting

The tool that counts the lines, words and characters of its inputs.
-/

namespace WasmBundle.Shell.Tool

open Running

structure Counts where
  lines : Nat := 0
  words : Nat := 0
  bytes : Nat := 0
  longest : Nat := 0

/-- How many words a text has, given whether a word goes on at its start. Characters that cannot be
printed are part of no word and part none. -/
def wordCount : Bool → List Char → Nat
  | _, [] => 0
  | inWord, c :: rest =>
    if isSpaceChar c then wordCount false rest
    else if !isPrintable c then wordCount inWord rest
    else (if inWord then 0 else 1) + wordCount true rest

/-- How wide the widest line of a text is, given the column where it starts. -/
def widestLine : Nat → List Char → Nat
  | column, [] => column
  | column, c :: rest =>
    if c = '\n' ∨ c = '\r' ∨ c = '\x0c' then max column (widestLine 0 rest)
    else if c = '\t' then widestLine (column + 8 - column % 8) rest
    else widestLine (if isPrintable c then column + 1 else column) rest

def countsOf (b : Bytes) : Counts :=
  let cs := chars b
  { lines := cs.count '\n', words := wordCount false cs, bytes := cs.length,
    longest := widestLine 0 cs }

def Counts.add (a b : Counts) : Counts :=
  { lines := a.lines + b.lines
    words := a.words + b.words
    bytes := a.bytes + b.bytes
    longest := max a.longest b.longest }

def shownCounts (i : Invocation) (width : Nat) (c : Counts) (title : Option String) : String :=
  let letters := ['l', 'w', 'm', 'c', 'L']
  let wanted := if letters.any i.has then i.has else ['l', 'w', 'c'].contains
  let numbers := [('l', c.lines), ('w', c.words), ('m', c.bytes), ('c', c.bytes),
    ('L', c.longest)].filter fun n => wanted n.1
  " ".intercalate ((numbers.map fun n => Format.padded false ' ' width (toString n.2)) ++
    title.toList) ++ "\n"

/-- What is known of an input before it is read. -/
inductive InputSize where
  | known (size : Nat)
  | unknown
  /-- It cannot be read, which is no matter for the others. -/
  | absent

def inputSize (operand : String) : Running InputSize := do
  if operand = "-" then
    match streamOf? (← get) 0 with
    | some (_, .file n ..) => return .known (← held n).length
    | none => return .absent
    | _ => return .unknown
  else
    match ← found operand with
    | .ok (.file _ f) => return if f.kind = .regular then .known f.content.length else .unknown
    | .ok .directory => return .unknown
    | .error _ => return .absent

def countWidth (sizes : List InputSize) : Nat :=
  let total := sizes.foldl (fun n s => match s with | .known k => n + k | _ => n) 0
  let digits := (toString total).length
  if sizes.all fun s => !(s matches .unknown) then digits else max 7 digits

inductive Total where
  | automatic
  | always
  | only
  | never
  deriving DecidableEq, Repr

def totals : List (List String × Total) :=
  [(["auto"], .automatic), (["always"], .always), (["only"], .only), (["never"], .never)]

/-- What is counted: inputs that operands name, or that a file tells. -/
structure Counted where
  operands : List String
  /-- The file that tells them. -/
  list : Option String := none

/-- What is said of the name of an input that makes no sense. -/
def Counted.fault? (c : Counted) (place : Nat) (name : String) : Option String :=
  if c.list = some "-" ∧ name = "-" then
    some ("when reading file names from stdin, no file name of " ++ quoted "-" ++ " allowed")
  else if name.isEmpty then
    let start :=
      match c.list with
      | some f => shownPath f ++ ":" ++ toString (place + 1) ++ ": "
      | none => ""
    some (start ++ "invalid zero-length file name")
  else none

/-- Counts inputs one after another; their sum and the status. -/
def countInputs (name : String) (c : Counted) (titled : Bool)
    (shown : Counts → Option String → Running Unit) :
    Nat → Counts → List String → Running (Counts × Nat)
  | _, sum, [] => return (sum, 0)
  | place, sum, o :: rest => do
    let title := if titled then some (shownPath o) else none
    let (here, status) ← do
      match c.fault? place o with
      | some text => pure (none, ← complain name text)
      | none =>
        match ← contentOf o with
        | .ok b => pure (some (countsOf b), 0)
        | .error e =>
          let text := if titled then shownPath o else quotedPath "standard input"
          let status ← complain name (text ++ ": " ++ e.reason)
          pure (if e matches .isDirectory ∨ o = "-" then some {} else none, status)
    if let some counts := here then shown counts title
    let (sum, others) ←
      countInputs name c titled shown (place + 1) (sum.add (here.getD {})) rest
    return (sum, max status others)

/-- Counts everything, with a total where one is wanted. -/
def countOperands (name : String) (i : Invocation) (total : Total) (c : Counted) :
    Running Nat := do
  let isLone := c.operands.length = 1 && (['l', 'w', 'm', 'c', 'L'].filter i.has).length == 1
  let sizes ← c.operands.mapM inputSize
  let width := if isLone ∨ total = .only ∨ c.list = some "-" then 1 else countWidth sizes
  let titled := c.list.isSome || !i.operands.isEmpty
  let shown := fun (counts : Counts) (title : Option String) =>
    if total = .only then pure () else print (shownCounts i width counts title)
  let (sum, status) ← countInputs name c titled shown 0 {} c.operands
  let showsTotal := total != .never && (total != .automatic || c.operands.length > 1)
  if showsTotal then
    print (shownCounts i width sum (if total = .only then none else some "total"))
  let isClosed := (streamOf? (← get) 0).isNone
  if isClosed ∧ c.operands.contains "-" then
    complain name ("-: " ++ IoError.badDescriptor.reason)
  else return status

def countAll : Tool :=
  withOptions
    { flags := ['c', 'm', 'l', 'L', 'w', 'δ'], valued := ['φ', 'τ'],
      long := [("bytes", 'c'), ("chars", 'm'), ("lines", 'l'), ("words", 'w'), ("debug", 'δ'),
        ("files0-from", 'φ'), ("max-line-length", 'L'), ("total", 'τ')] } 1
    fun _ name i => do
      match choice? "--total" totals ((i.value? 'τ').getD "auto") with
      | .error text => misuse name text 1
      | .ok total =>
        match i.value? 'φ', i.operands with
        | none, operands => countOperands name i total { operands := inputs operands }
        | some _, o :: _ =>
          misuse name ("extra operand " ++ quotedPath o ++
            "\nfile operands cannot be combined with --files0-from") 1
        | some list, [] =>
          match ← contentOf list with
          | .ok b =>
            let operands := (recordsOf (Char.ofNat 0) (chars b)).map String.ofList
            countOperands name i total { operands, list := some list }
          | .error .isDirectory =>
            complain name (shownPath list ++ ": read error: " ++ IoError.isDirectory.reason)
          | .error e =>
            complain name ("cannot open " ++ quotedPath list ++ " for reading: " ++ e.reason)

end WasmBundle.Shell.Tool
