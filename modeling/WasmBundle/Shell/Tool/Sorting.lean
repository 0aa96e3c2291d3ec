import WasmBundle.Shell.Tool.Lines
import WasmBundle.Shell.Tool.Sorting.Key

/-!
# Sorting

The tool that orders the lines of all its inputs, merges inputs that are ordered, or checks whether
one is. Lines that are equal keep the order in which they were read.
-/

namespace WasmBundle.Shell.Sorting

open Running Tool

def options : OptionTable where
  flags := ['b', 'c', 'C', 'd', 'f', 'g', 'h', 'i', 'm', 'M', 'n', 'r', 'R', 's', 'u', 'V', 'z',
    'δ']
  valued := ['k', 'o', 'S', 't', 'T', 'φ', 'κ', 'σ', 'ρ', 'β', 'π']
  optional := ['χ']
  long := [("ignore-leading-blanks", 'b'), ("check", 'χ'), ("compress-program", 'κ'),
    ("debug", 'δ'), ("dictionary-order", 'd'), ("ignore-case", 'f'), ("files0-from", 'φ'),
    ("general-numeric-sort", 'g'), ("ignore-nonprinting", 'i'), ("key", 'k'), ("merge", 'm'),
    ("month-sort", 'M'), ("numeric-sort", 'n'), ("human-numeric-sort", 'h'),
    ("version-sort", 'V'), ("random-sort", 'R'), ("random-source", 'ρ'), ("sort", 'σ'),
    ("output", 'o'), ("reverse", 'r'), ("stable", 's'), ("batch-size", 'β'),
    ("buffer-size", 'S'), ("field-separator", 't'), ("temporary-directory", 'T'),
    ("unique", 'u'), ("zero-terminated", 'z'), ("parallel", 'π')]

def sorts : List (List String × Char) :=
  [(["general-numeric"], 'g'), (["human-numeric"], 'h'), (["month"], 'M'), (["numeric"], 'n'),
    (["random"], 'R'), (["version"], 'V')]

def checks : List (List String × Char) := [(["quiet", "silent"], 'C'), (["diagnose-first"], 'c')]

inductive Purpose where
  | sorts
  | merges
  /-- Tells the first line that is out of order, or only whether there is one. -/
  | checks (quietly : Bool)
  deriving DecidableEq, Repr

structure Request where
  manner : Manner := {}
  keys : List Key := []
  separator : Option Char := none
  purpose : Purpose := .sorts
  output : Option String := none
  stable : Bool := false
  unique : Bool := false
  sign : Char := '\n'
  list : Option String := none

/-- Why a request cannot be met. -/
inductive Refusal where
  | plain (text : String)
  /-- With the advice to ask for help, and a status. -/
  | withAdvice (text : String) (status : Nat)

def checkLetter (quietly : Bool) : String := if quietly then "C" else "c"

def incompatible (letters : String) : Refusal :=
  .plain ("options " ++ quoted ("-" ++ letters) ++ " are incompatible")

def separator? (text : String) : Except Refusal Char :=
  match text.toList with
  | [] => .error (.plain "empty tab")
  | [c] => .ok c
  | cs =>
    if cs = ['\\', '0'] then .ok (Char.ofNat 0)
    else .error (.plain ("multi-character tab " ++ quotedText text))

/-- What is said of an amount of memory that makes no sense. -/
def amountFault? (text : String) : Option String :=
  let cs := text.toList
  let rest := cs.dropWhile Char.isDigit
  let argument := "-S argument " ++ quotedText text
  if !cs.head?.any Char.isDigit then some ("invalid " ++ argument)
  else if rest.isEmpty then none
  else if ['%', 'b', 'K', 'k', 'M', 'm', 'G', 'g', 'T', 't', 'P', 'E', 'Z', 'Y', 'R',
      'Q'].contains (rest.headD ' ') ∧ rest.length = 1 then none
  else some ("invalid suffix in " ++ argument)

def withOption (r : Request) (o : Char × String) : Except Refusal Request := do
  let value := o.2
  let checking := fun (quietly : Bool) =>
    match r.purpose with
    | .checks before =>
      if before = quietly then .ok r else .error (incompatible "cC")
    | _ => .ok { r with purpose := .checks quietly }
  let chosen := fun (option : String) (known : List (List String × Char)) =>
    (choice? option known value).mapError fun text => Refusal.withAdvice text 1
  match o.1 with
  | 'k' => return { r with keys := r.keys ++ [← (key? value).mapError .plain] }
  | 't' =>
    let c ← separator? value
    if r.separator.any (· ≠ c) then throw (.plain "incompatible tabs")
    else return { r with separator := some c }
  | 'o' =>
    if r.output.any (· ≠ value) then throw (.plain "multiple output files specified")
    else return { r with output := some value }
  | 'm' => return { r with purpose := if r.purpose = .sorts then .merges else r.purpose }
  | 's' => return { r with stable := true }
  | 'u' => return { r with unique := true }
  | 'z' => return { r with sign := Char.ofNat 0 }
  | 'c' => checking false
  | 'C' => checking true
  | 'χ' => if value.isEmpty then checking false else checking ((← chosen "--check" checks) = 'C')
  | 'σ' =>
    let c ← chosen "--sort" sorts
    return { r with manner := (r.manner.with? true true c).getD r.manner }
  | 'φ' => return { r with list := some value }
  | 'S' =>
    match amountFault? value with
    | some text => throw (.plain text)
    | none => return r
  | 'π' =>
    match Numeral.count? value with
    | none => throw (.plain ("invalid --parallel argument " ++ quotedText value))
    | some n => if n = 0 then throw (.plain "number in parallel must be nonzero") else return r
  | c => return { r with manner := (r.manner.with? true true c).getD r.manner }

/-- The request with the manner of all lines where a key has none of its own. -/
def Request.settled (r : Request) : Except Refusal Request := do
  let inherited := fun (k : Key) =>
    if k.manner.isPlain ∧ !k.manner.reversed then { k with manner := r.manner } else k
  let keys :=
    if r.keys.isEmpty then
      if r.manner.isPlain then [] else [{ manner := r.manner : Key }]
    else r.keys.map inherited
  match keys.find? fun k => k.manner.isTorn with
  | some k => throw (incompatible (String.ofList k.manner.letters))
  | none => return { r with keys }

def Request.order (r : Request) : LineOrder :=
  { keys := r.keys, separator := r.separator, reversed := r.manner.reversed,
    byKeysOnly := r.stable || r.unique }

/-- The old form of a key: a place behind `+`, counted from zero, with letters. -/
def oldStart? (a : String) : Option String :=
  match a.toList with
  | '+' :: rest =>
    let field := rest.takeWhile Char.isDigit
    let after := rest.drop field.length
    let (char, after) :=
      match after with
      | '.' :: more => (some (more.takeWhile Char.isDigit), more.dropWhile Char.isDigit)
      | _ => (none, after)
    let next := fun (cs : List Char) => toString (Numeral.ofDigits 10 cs + 1)
    if field.isEmpty ∨ char = some [] ∨ !(letters true false {} after).2.isEmpty then none
    else
      some (next field ++ ((char.map fun cs => "." ++ next cs).getD "") ++ String.ofList after)
  | _ => none

/-- The end of a key in the old form: a place behind `-`. -/
def oldEnd? (a : String) : Option String :=
  match a.toList with
  | '-' :: rest =>
    let field := rest.takeWhile Char.isDigit
    let after := rest.drop field.length
    let (char, after) :=
      match after with
      | '.' :: more => (more.takeWhile Char.isDigit, more.dropWhile Char.isDigit)
      | _ => ([], after)
    let n := Numeral.ofDigits 10 field
    if field.isEmpty then none
    else if Numeral.ofDigits 10 char = 0 then some (toString n ++ String.ofList after)
    else some (toString (n + 1) ++ "." ++ String.ofList (char ++ after))
  | _ => none

/-- Arguments with keys of the old form put into the new one. `start` is that of a key of which the
end may come next. -/
def withNewKeys : Option String → List String → List String
  | start, [] => (start.map ("-k" ++ ·)).toList
  | start, "--" :: rest => (start.map ("-k" ++ ·)).toList ++ "--" :: rest
  | some start, a :: rest =>
    match oldEnd? a with
    | some finish => ("-k" ++ start ++ "," ++ finish) :: withNewKeys none rest
    | none =>
      match oldStart? a with
      | some next => ("-k" ++ start) :: withNewKeys (some next) rest
      | none => ("-k" ++ start) :: a :: withNewKeys none rest
  | none, a :: rest =>
    match oldStart? a with
    | some start => withNewKeys (some start) rest
    | none => a :: withNewKeys none rest

def distinct (o : LineOrder) : List (List Char) → List (List Char)
  | a :: b :: rest =>
    let others := distinct o (b :: rest)
    if o.compare a b = .eq then a :: others.drop 1 else a :: others
  | l => l

/-- The first line that is out of order, with its number. -/
def disorder? (o : LineOrder) (unique : Bool) : Nat → List (List Char) → Option (Nat × List Char)
  | n, a :: b :: rest =>
    let order := o.compare a b
    if order = .gt ∨ (unique ∧ order = .eq) then some (n + 1, b)
    else disorder? o unique (n + 1) (b :: rest)
  | _, _ => none

/-- Refuses with a message and the status of trouble. -/
def trouble (name text : String) : Running Nat := do
  printError (name ++ ": " ++ text ++ "\n")
  return 2

def inputFault (title operand : String) (e : IoError) : String :=
  let verb := match e with
    | .isDirectory => "read failed"
    | .badDescriptor => "stat failed"
    | _ => title
  verb ++ ": " ++ shownPath operand ++ ": " ++ e.reason

/-- The lines of each input, or what is said of one that cannot be used. -/
def readInputs (sign : Char) : List String → Running (Except String (List (List (List Char))))
  | [] => return .ok []
  | o :: rest => do
    match ← contentOf o with
    | .error e => return .error (inputFault "cannot read" o e)
    | .ok b => return (← readInputs sign rest).map (recordsOf sign (chars b) :: ·)

def check (name : String) (r : Request) (quietly : Bool) (operand : String) : Running Nat := do
  match ← contentOf operand with
  | .error e => trouble name (inputFault "open failed" operand e)
  | .ok b =>
    match disorder? r.order r.unique 1 (recordsOf r.sign (chars b)) with
    | none => return 0
    | some (n, line) =>
      if !quietly then
        printError (name ++ ": " ++ operand ++ ":" ++ toString n ++ ": disorder: " ++
          String.ofList (line ++ [r.sign]))
      return 1

/-- Orders the lines of inputs and writes them. -/
def arrange (name : String) (r : Request) (operands : List String) : Running Nat := do
  match ← readInputs r.sign operands with
  | .error text => trouble name text
  | .ok all =>
    let o := r.order
    let follows := fun (a b : List Char) => o.compare a b != .gt
    let lines :=
      if r.purpose = .merges then all.foldl (fun l m => l.merge m follows) []
      else all.flatten.mergeSort follows
    let text := closedBy r.sign (if r.unique then distinct o lines else lines)
    match r.output with
    | none =>
      printChars text
      return 0
    | some path =>
      match ← writeTo path (octets (String.ofList text)) with
      | .ok () => return 0
      | .error e => trouble name ("open failed: " ++ shownPath path ++ ": " ++ e.reason)

/-- The inputs that a file tells, or what is said of it. -/
def listedInputs (list : String) : Running (Except String (List String)) := do
  match ← contentOf list with
  | .error e => return .error (inputFault "open failed" list e)
  | .ok b =>
    let names := (recordsOf (Char.ofNat 0) (chars b)).map String.ofList
    if names.isEmpty then return .error ("no input from " ++ quotedText list)
    else
      match names.findIdx? (·.isEmpty) with
      | some n =>
        return .error (shownPath list ++ ":" ++ toString (n + 1) ++
          ": invalid zero-length file name")
      | none =>
        if list = "-" ∧ names.contains "-" then
          return .error ("when reading file names from stdin, no file name of " ++ quoted "-" ++
            " allowed")
        else return .ok names

def requestOf (i : Invocation) : Except Refusal Request := do
  (← i.options.foldlM withOption {}).settled

def perform (name : String) (r : Request) (operands : List String) : Running Nat := do
  match r.purpose, operands with
  | .checks quietly, _ :: o :: _ =>
    trouble name ("extra operand " ++ quotedPath o ++ " not allowed with -" ++
      checkLetter quietly)
  | .checks quietly, l =>
    if r.output.isSome then
      trouble name ("options " ++ quoted ("-" ++ checkLetter quietly ++ "o") ++
        " are incompatible")
    else check name r quietly (l.headD "-")
  | _, l => arrange name r l

def sort : Tool := fun runner name arguments =>
  withOptions options 2 (fun _ name i => do
    match requestOf i with
    | .error (.plain text) => trouble name text
    | .error (.withAdvice text status) => misuse name text status
    | .ok r =>
      match r.list, i.operands with
      | none, operands => perform name r (inputs operands)
      | some _, o :: _ =>
        misuse name ("extra operand " ++ quotedPath o ++
          "\nfile operands cannot be combined with --files0-from") 2
      | some list, [] =>
        match ← listedInputs list with
        | .ok names => perform name r names
        | .error text => trouble name text)
    runner name (withNewKeys none arguments)

end WasmBundle.Shell.Sorting
