import WasmBundle.Shell.Tool.Sharing

/-!
# Joining lines by a field

The tool that puts together the lines of two inputs that have the same field. Both inputs are in the
order of that field.
-/

namespace WasmBundle.Shell.Joining

open Running Tool

/-- A line and its fields. -/
structure Row where
  number : Nat
  text : List Char
  fields : List (List Char)
  deriving DecidableEq, Repr

def isBlank (c : Char) : Bool := c = ' ' ∨ c = '\t' ∨ c = '\n'

/-- The fields between blanks; blanks at the end have an empty field behind them. -/
def blankFields : Nat → List Char → List (List Char)
  | 0, _ => []
  | limit + 1, cs =>
    match cs.dropWhile isBlank with
    | [] => if cs.isEmpty then [] else [[]]
    | rest =>
      let field := rest.takeWhile fun c => !isBlank c
      field :: blankFields limit (rest.drop field.length)

/-- What separates fields: blanks, a sign, or nothing. -/
inductive Separator where
  | blanks
  | sign (c : Char)
  | none
  deriving DecidableEq, Repr

def Separator.text : Separator → String
  | .sign c => String.ofList [c]
  | _ => " "

def fieldsOf (s : Separator) (text : List Char) : List (List Char) :=
  if text.isEmpty then []
  else
    match s with
    | .blanks =>
      let rest := text.dropWhile isBlank
      blankFields text.length rest
    | .sign c => splitAtSeparator c text
    | .none => [text]

def rowsOf (s : Separator) (sign : Char) (b : Bytes) : List Row :=
  (Sharing.linesOf sign b).zipIdx.map fun (text, n) =>
    { number := n + 1, text, fields := fieldsOf s text }

/-- Which field lines are joined by, counted from zero, and whether capitals count. -/
structure Keys where
  first : Nat
  second : Nat
  ignoresCase : Bool

def Keys.part (k : Keys) (field : Nat) (r : Row) : List Char :=
  let text := (r.fields[field]?).getD []
  if k.ignoresCase then text.map Char.toUpper else text

/-- What comes to light while two inputs are read. -/
inductive Event where
  | pair (first second : Option Row)
  | disorder (isFirst : Bool) (row : Row)
  deriving DecidableEq, Repr

/-- The rows of an input that are out of order, each against the one before. -/
def disorders (part : Row → List Char) (isFirst : Bool) : List Row → List Event
  | a :: b :: rest =>
    let others := disorders part isFirst (b :: rest)
    if Sorting.compareTexts (part a) (part b) == .gt then .disorder isFirst b :: others else others
  | _ => []

/-- What comes to light in the rest of two inputs, of which the first rows are read. -/
def events (k : Keys) (w : Watch) : Nat → Bool → List Row → List Row → List Event
  | 0, _, _, _ => []
  | limit + 1, unpaired, l, m =>
    let part := k.part k.first
    let other := k.part k.second
    let watched := fun (unpaired isFirst : Bool) (read : List Row) =>
      if w.notices unpaired then disorders (if isFirst then part else other) isFirst read else []
    match l, m with
    | a :: as, b :: bs =>
      match Sorting.compareTexts (part a) (other b) with
      | .lt =>
        .pair (some a) none :: watched unpaired true (l.take 2) ++ events k w limit true as m
      | .gt =>
        .pair none (some b) :: watched unpaired false (m.take 2) ++ events k w limit true l bs
      | .eq =>
        let same := l.takeWhile fun r => part r == other b
        let others := m.takeWhile fun r => other r == part a
        watched unpaired true (l.take (same.length + 1)) ++
          watched unpaired false (m.take (others.length + 1)) ++
          same.flatMap (fun r => others.map fun s => .pair (some r) (some s)) ++
          events k w limit unpaired (l.drop same.length) (m.drop others.length)
    | l, m =>
      l.map (fun r => .pair (some r) none) ++ m.map (fun r => .pair none (some r)) ++
        watched unpaired true l ++ watched unpaired false m

/-- What comes to light up to the first disorder, if any disorder ends the work. -/
def untilDisorder : List Event → List Event
  | [] => []
  | .disorder b r :: _ => [.disorder b r]
  | e :: rest => e :: untilDisorder rest

inductive Column where
  | key
  | field (isFirst : Bool) (n : Nat)
  deriving DecidableEq, Repr

structure Layout where
  keys : Keys
  /-- The columns, if they are given. -/
  columns : List Column := []
  /-- The numbers of fields that rows have, if those of the first rows count. -/
  counts : Option (Nat × Nat) := none
  filler : String := ""
  separator : Separator := .blanks
  sign : Char := '\n'

namespace Layout

def cell (y : Layout) (r : Option Row) (n : Nat) : String :=
  match r.bind fun r => r.fields[n]? with
  | some [] => y.filler
  | some text => String.ofList text
  | none => y.filler

/-- The fields of a row beside the one it is joined by. -/
def others (y : Layout) (r : Option Row) (field : Nat) (count : Option Nat) : List String :=
  let n := count.getD ((r.map (·.fields.length)).getD 0)
  ((List.range n).filter (· != field)).map (y.cell r)

def key (y : Layout) (a b : Option Row) : String :=
  match a with
  | some r => y.cell (some r) y.keys.first
  | none => y.cell b y.keys.second

def line (y : Layout) (a b : Option Row) : String :=
  let cells :=
    if y.columns.isEmpty then
      y.key a b :: y.others a y.keys.first (y.counts.map (·.1)) ++
        y.others b y.keys.second (y.counts.map (·.2))
    else
      y.columns.map fun
        | .key => y.key a b
        | .field isFirst n => y.cell (if isFirst then a else b) n
  y.separator.text.intercalate cells ++ String.ofList [y.sign]

end Layout

def options : OptionTable where
  flags := ['i', 'z', 'κ', 'ν', 'η']
  valued := ['a', 'e', 'j', 'o', 't', 'v', '1', '2']
  long := [("ignore-case", 'i'), ("check-order", 'κ'), ("nocheck-order", 'ν'), ("header", 'η'),
    ("zero-terminated", 'z')]

/-- The number of a field, counted from zero. -/
def fieldNumber (text : String) : Except String Nat :=
  match (Size.counted? [] text).toOption with
  | some (n + 1) => .ok n
  | _ => .error ("invalid field number: " ++ quotedText text)

def column (text : String) : Except String Column :=
  let invalid := .error ("invalid field specifier: " ++ quotedText text)
  match text.toList with
  | ['0'] => .ok .key
  | '0' :: _ => invalid
  | c :: rest =>
    if c ≠ '1' ∧ c ≠ '2' then .error ("invalid file number in field spec: " ++ quotedText text)
    else
      match rest with
      | '.' :: digits => (fieldNumber (String.ofList digits)).map (.field (c = '1'))
      | _ => invalid
  | [] => .error ("invalid file number in field spec: " ++ quotedText text)

/-- The columns that a value names, between commas or blanks. -/
def columnsOf (text : String) : Except String (List Column) :=
  let plain := text.toList.map fun c => if c = ' ' ∨ c = '\t' then ',' else c
  (splitAtSeparator ',' plain).mapM fun part => column (String.ofList part)

def separator? (text : String) : Except String Separator :=
  match text.toList with
  | [] => .ok .none
  | [c] => .ok (.sign c)
  | ['\\', '0'] => .ok (.sign (Char.ofNat 0))
  | _ => .error ("multi-character tab " ++ quotedText text)

structure Order where
  first : Option Nat := none
  second : Option Nat := none
  ignoresCase : Bool := false
  /-- Which rows without a partner are shown. -/
  showsFirst : Bool := false
  showsSecond : Bool := false
  showsPairs : Bool := true
  columns : List Column := []
  countsFields : Bool := false
  filler : Option String := none
  separator : Option Separator := none
  watch : Watch := .onceUnpaired
  header : Bool := false
  sign : Char := '\n'

/-- A field to join by, which must not differ from the one that is given before. -/
def settled (before : Option Nat) (n : Nat) : Except String (Option Nat) :=
  match before with
  | some m =>
    if m = n then .ok (some n)
    else .error ("incompatible join fields " ++ toString m ++ ", " ++ toString n)
  | none => .ok (some n)

namespace Order

/-- The order with rows of an input shown that have no partner. -/
def unpaired (o : Order) (value : String) : Except String Order :=
  match (Size.counted? [] value).toOption with
  | some 1 => .ok { o with showsFirst := true }
  | some 2 => .ok { o with showsSecond := true }
  | _ => .error ("invalid field number: " ++ quotedText value)

def withOption (o : Order) (option : Char × String) : Except String Order := do
  let (letter, value) := option
  match letter with
  | 'i' => return { o with ignoresCase := true }
  | 'z' => return { o with sign := Char.ofNat 0 }
  | 'κ' => return { o with watch := .always }
  | 'ν' => return { o with watch := .never }
  | 'η' => return { o with header := true }
  | 'a' => o.unpaired value
  | 'v' => return { (← o.unpaired value) with showsPairs := false }
  | '1' => return { o with first := ← settled o.first (← fieldNumber value) }
  | '2' => return { o with second := ← settled o.second (← fieldNumber value) }
  | 'j' =>
    let n ← fieldNumber value
    return { o with first := ← settled o.first n, second := ← settled o.second n }
  | 'e' =>
    if o.filler.any (· != value) then throw "conflicting empty-field replacement strings"
    return { o with filler := some value }
  | 'o' =>
    if value = "auto" then return { o with countsFields := true }
    else return { o with columns := o.columns ++ (← columnsOf value) }
  | 't' =>
    let s ← separator? value
    if o.separator.any (· != s) then throw "incompatible tabs"
    return { o with separator := some s }
  | _ => return o

def keys (o : Order) : Keys where
  first := o.first.getD 0
  second := o.second.getD 0
  ignoresCase := o.ignoresCase

def shows (o : Order) : Option Row → Option Row → Bool
  | some _, some _ => o.showsPairs
  | some _, none => o.showsFirst
  | none, _ => o.showsSecond

end Order

/-- What comes to light, with one row out of order for each input at most. -/
def withoutRepeats : List Bool → List Event → List Event
  | _, [] => []
  | told, .disorder isFirst r :: rest =>
    if told.contains isFirst then withoutRepeats told rest
    else .disorder isFirst r :: withoutRepeats (isFirst :: told) rest
  | told, e :: rest => e :: withoutRepeats told rest

def Event.isDisorder : Event → Bool
  | .disorder .. => true
  | .pair .. => false

def join (name : String) (o : Order) (titles : String × String) (l m : Bytes) :
    Running Nat := do
  let separator := o.separator.getD .blanks
  let rows := rowsOf separator o.sign l
  let others := rowsOf separator o.sign m
  let count := fun (l : List Row) => (l.head?.map (·.fields.length)).getD 0
  let y : Layout :=
    { keys := o.keys
      columns := o.columns
      counts := if o.countsFields then some (count rows, count others) else none
      filler := o.filler.getD ""
      separator
      sign := o.sign }
  let n := if o.header then 1 else 0
  let all := events o.keys o.watch (l.length + m.length + 1) false (rows.drop n) (others.drop n)
  let shown := if o.watch = .always then untilDisorder all else all
  if o.header ∧ !(rows.isEmpty && others.isEmpty) then print (y.line rows.head? others.head?)
  for e in withoutRepeats [] shown do
    match e with
    | .pair a b => if o.shows a b then print (y.line a b)
    | .disorder isFirst r =>
      printError (name ++ ": " ++ (if isFirst then titles.1 else titles.2) ++ ":" ++
        toString r.number ++ ": is not sorted: " ++ String.ofList r.text ++ "\n")
  if !shown.any Event.isDisorder then return 0
  else
    if o.watch ≠ .always then printError (name ++ ": input is not in sorted order\n")
    return 1

def joinByField : Tool :=
  withOptions options 1 fun _ name i => do
    match i.options.foldlM Order.withOption {} with
    | .error text => complain name text
    | .ok o =>
      match i.operands with
      | [] => misuse name "missing operand" 1
      | [a] => misuse name ("missing operand after " ++ quotedText a) 1
      | [a, b] =>
        match ← contentOf a with
        | .error e => complain name (shownPath a ++ ": " ++ e.reason)
        | .ok l =>
          if a = "-" ∧ b = "-" then complain name "both files cannot be standard input"
          else
            match ← contentOf b with
            | .error e => complain name (shownPath b ++ ": " ++ e.reason)
            | .ok m => join name o (a, b) l m
      | _ :: _ :: extra :: _ => misuse name ("extra operand " ++ quotedText extra) 1

end WasmBundle.Shell.Joining
