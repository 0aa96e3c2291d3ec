import WasmBundle.Shell.Tool.Lines

/-!
# Runs of lines

The tool that shows runs of equal lines: one of each, only those of some length, or all of them with
gaps between the runs.
-/

namespace WasmBundle.Shell.Runs

open Running Tool

def runsOf (key : List Char → List Char) : List (List Char) → List (List (List Char))
  | [] => []
  | line :: rest =>
    match runsOf key rest with
    | (other :: more) :: runs =>
      if key line = key other then (line :: other :: more) :: runs
      else [line] :: (other :: more) :: runs
    | _ => [[line]]

/-- Where empty lines stand between runs. -/
inductive Gaps where
  | none
  | before
  | behind
  | between
  | around
  deriving DecidableEq, Repr

/-- What counts of a line. -/
structure Reading where
  fields : Nat := 0
  chars : Nat := 0
  most : Option Nat := Option.none
  ignoresCase : Bool := false

def skipFields : Nat → List Char → List Char
  | 0, cs => cs
  | n + 1, cs =>
    if cs.isEmpty then cs
    else skipFields n ((cs.dropWhile isSpace).dropWhile fun c => !isSpace c)

def Reading.key (r : Reading) (line : List Char) : List Char :=
  let cs := (skipFields r.fields line).drop r.chars
  let cs := (r.most.map cs.take).getD cs
  if r.ignoresCase then cs.map Char.toUpper else cs

/-- What is shown of runs. -/
structure Choice where
  /-- Whether a run of one line is shown. -/
  singles : Bool := true
  /-- Whether one line of a longer run is shown. -/
  first : Bool := true
  /-- Whether the others are. -/
  others : Bool := false
  counts : Bool := false
  gaps : Gaps := .none

def Choice.shown (c : Choice) (run : List (List Char)) : List (List Char) :=
  let counted := fun (line : List Char) =>
    if c.counts then
      (Format.padded false ' ' 7 (toString run.length) ++ " ").toList ++ line
    else line
  let lines :=
    match run with
    | [line] => if c.singles then [line] else []
    | _ =>
      if c.others then run.dropLast ++ if c.first then run.drop (run.length - 1) else []
      else if c.first then run.take 1
      else []
  lines.map counted

/-- The lines of runs that are shown, with gaps between those that count. -/
def Choice.all (c : Choice) (runs : List (List (List Char))) : List (List Char) :=
  let kept := if c.gaps = .none then runs else
    runs.filter fun r => c.singles || 1 < r.length
  let parts := kept.map c.shown
  match c.gaps with
  | .none => parts.flatten
  | .before => parts.flatMap ([] :: ·)
  | .behind => parts.flatMap (· ++ [[]])
  | .between => [[]].intercalate parts
  | .around => parts.flatMap ([] :: ·) ++ if parts.isEmpty then [] else [[]]

def options : OptionTable where
  flags := ['c', 'd', 'D', 'i', 'u', 'z']
  valued := ['f', 's', 'w']
  optional := ['δ', 'γ']
  long := [("count", 'c'), ("repeated", 'd'), ("all-repeated", 'δ'), ("group", 'γ'),
    ("ignore-case", 'i'), ("unique", 'u'), ("skip-fields", 'f'), ("skip-chars", 's'),
    ("check-chars", 'w'), ("zero-terminated", 'z')]
  counted := some 'φ'

def repetitions : List (List String × Gaps) :=
  [(["none"], .none), (["prepend"], .before), (["separate"], .between)]

def groups : List (List String × Gaps) :=
  [(["prepend"], .before), (["append"], .behind), (["separate"], .between), (["both"], .around)]

/-- What is said of a count that is none. -/
def countFault? (o : Char × String) : Option String :=
  let fault := fun (title : String) =>
    if (Numeral.count? o.2).isNone then some (o.2 ++ ": invalid number of " ++ title) else none
  match o.1 with
  | 'f' => fault "fields to skip"
  | 's' => fault "bytes to skip"
  | 'w' => fault "bytes to compare"
  | _ => none

def readingOf (i : Invocation) (oldSkip : Nat) : Reading :=
  let count := fun (c : Char) => (i.value? c).bind Numeral.count?
  { fields := ((count 'f').or (count 'φ')).getD 0
    chars := (count 's').getD oldSkip
    most := count 'w'
    ignoresCase := i.has 'i' }

/-- What options ask to be shown, or what is said of them. -/
def choiceOf (i : Invocation) : Except String Choice := do
  let repetition ←
    match i.value? 'δ' with
    | some text => if text.isEmpty then .ok Gaps.none else choice? "--all-repeated" repetitions text
    | none => .ok .none
  let group ←
    match i.value? 'γ' with
    | some text => if text.isEmpty then .ok Gaps.between else choice? "--group" groups text
    | none => .ok .none
  let all := i.has 'D' || i.has 'δ'
  if i.has 'γ' ∧ (i.has 'c' ∨ i.has 'd' ∨ all ∨ i.has 'u') then
    throw "--group is mutually exclusive with -c/-d/-D/-u"
  else if i.has 'c' ∧ all then
    throw "printing all duplicated lines and repeat counts is meaningless"
  else if i.has 'γ' then return { others := true, gaps := group }
  else
    return {
      singles := !(i.has 'd' || all)
      first := !i.has 'u'
      others := all
      counts := i.has 'c'
      gaps := repetition }

/-- The count of an operand in the old form of an option, behind `+`. -/
def oldSkip? (operand : String) : Option Nat :=
  match operand.toList with
  | '+' :: rest => Numeral.count? (String.ofList rest)
  | _ => none

/-- Shows the runs of an input that can be opened; a file that receives them is emptied before. -/
def showOpened (name : String) (i : Invocation) (c : Choice) (r : Reading) (source : String)
    (path? : Option String) : Running Nat := do
  let emptied ←
    match path? with
    | some path => do
      match ← writeTo path [] with
      | .ok () => pure none
      | .error e => pure (some (path, e))
    | none => pure none
  match emptied, ← contentOf source with
  | some (path, e), _ => complain name (shownPath path ++ ": " ++ e.reason)
  | none, .error e =>
    complain name ("error reading " ++ quotedPath source ++ ": " ++ e.reason)
  | none, .ok b =>
    let sign := closingSign i
    let text := closedBy sign (c.all (runsOf r.key (recordsOf sign (chars b))))
    match path? with
    | none =>
      printChars text
      return 0
    | some path =>
      let _ ← writeTo path (octets (String.ofList text))
      return 0

def showFrom (name : String) (i : Invocation) (c : Choice) (r : Reading) (source : String)
    (target : Option String) : Running Nat := do
  let path? := target.filter (· ≠ "-")
  match source, ← found source with
  | "-", _ => showOpened name i c r source path?
  | _, .error e => complain name (shownPath source ++ ": " ++ e.reason)
  | _, .ok _ => showOpened name i c r source path?

def showRuns : Tool :=
  withOptions options 1 fun _ name i => do
    match i.options.findSome? countFault?, choiceOf i with
    | some text, _ => complain name text
    | none, .error text => misuse name text 1
    | none, .ok c =>
      let oldSkip := (i.operands.filterMap oldSkip?).getLast?.getD 0
      match i.operands.filter fun o => (oldSkip? o).isNone with
      | _ :: _ :: o :: _ => misuse name ("extra operand " ++ quotedText o) 1
      | files => showFrom name i c (readingOf i oldSkip) (files.headD "-") files[1]?

end WasmBundle.Shell.Runs
