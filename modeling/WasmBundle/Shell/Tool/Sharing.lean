import WasmBundle.Shell.Tool.Lines
import WasmBundle.Shell.Tool.Sorting.Order

/-!
# Lines of two inputs

The tool that shows, for two inputs in order, the lines of the first only, those of the second only,
and those of both, in three columns.
-/

namespace WasmBundle.Shell.Tool

open Running

/-- When it is watched that inputs are in order. -/
inductive Watch where
  | always
  /-- From the first line on that the other input does not have. -/
  | onceUnpaired
  | never
  deriving DecidableEq, Repr

/-- Whether a line that is out of order is noticed. -/
def Watch.notices (w : Watch) (unpaired : Bool) : Bool :=
  match w with
  | .always => true
  | .onceUnpaired => unpaired
  | .never => false

end WasmBundle.Shell.Tool

namespace WasmBundle.Shell.Sharing

open Running Tool

inductive Part where
  | first
  | second
  | both
  deriving DecidableEq, Repr

/-- What comes to light while two inputs are read. -/
inductive Event where
  | line (part : Part) (text : List Char)
  | disorder (part : Part)
  deriving DecidableEq, Repr

/-- An input as far as it is read: the line before the one that is looked at, and the others. -/
structure Source where
  before : Option (List Char) := none
  lines : List (List Char)

/-- Whether two lines that follow each other are out of order. -/
def torn (a : Option (List Char)) (b : List Char) : Bool :=
  a.any fun l => Sorting.compareTexts l b == .gt

namespace Source

/-- The input behind the line that is looked at, and whether that shows a disorder. At the end of
the input the last two lines are looked at again. -/
def step (s : Source) : Source × Bool :=
  match s.lines with
  | a :: b :: rest => ({ before := some a, lines := b :: rest }, torn (some a) b)
  | [a] => ({ before := some a, lines := [] }, torn s.before a)
  | [] => (s, false)

end Source

/-- What comes to light in the rest of two inputs. -/
def events (w : Watch) : Nat → Bool → Source → Source → List Event
  | 0, _, _, _ => []
  | limit + 1, unpaired, s, t =>
    let stepFirst := fun (unpaired : Bool) =>
      let (s', isTorn) := s.step
      (s', if isTorn && w.notices unpaired then [Event.disorder .first] else [])
    let stepSecond := fun (unpaired : Bool) =>
      let (t', isTorn) := t.step
      (t', if isTorn && w.notices unpaired then [Event.disorder .second] else [])
    let onlyFirst := fun (a : List Char) =>
      let (s', found) := stepFirst true
      .line .first a :: found ++ events w limit true s' t
    let onlySecond := fun (b : List Char) =>
      let (t', found) := stepSecond true
      .line .second b :: found ++ events w limit true s t'
    match s.lines, t.lines with
    | [], [] => []
    | a :: _, [] => onlyFirst a
    | [], b :: _ => onlySecond b
    | a :: _, b :: _ =>
      match Sorting.compareTexts a b with
      | .lt => onlyFirst a
      | .gt => onlySecond b
      | .eq =>
        let (s', found) := stepFirst unpaired
        let (t', more) := stepSecond unpaired
        .line .both b :: found ++ more ++ events w limit unpaired s' t'

/-- What comes to light up to the first disorder, if any disorder ends the work. -/
def untilDisorder : List Event → List Event
  | [] => []
  | .disorder p :: _ => [.disorder p]
  | e :: rest => e :: untilDisorder rest

/-- What comes to light, with one disorder for each input at most. -/
def withoutRepeats : List Part → List Event → List Event
  | _, [] => []
  | told, .disorder p :: rest =>
    if told.contains p then withoutRepeats told rest
    else .disorder p :: withoutRepeats (p :: told) rest
  | told, e :: rest => e :: withoutRepeats told rest

def Event.isDisorder : Event → Bool
  | .disorder _ => true
  | .line .. => false

structure Layout where
  hidden : List Part
  separator : String
  sign : Char
  total : Bool

def Layout.indent (y : Layout) (p : Part) : String :=
  let before := match p with
    | .first => []
    | .second => [Part.first]
    | .both => [.first, .second]
  String.join ((before.filter fun q => !y.hidden.contains q).map fun _ => y.separator)

def Layout.line (y : Layout) (p : Part) (text : List Char) : String :=
  if y.hidden.contains p then ""
  else y.indent p ++ String.ofList (text ++ [y.sign])

def Layout.totals (y : Layout) (l : List Event) : String :=
  let count := fun (p : Part) =>
    toString (l.filter fun e => match e with | .line q _ => p == q | _ => false).length
  y.separator.intercalate [count .first, count .second, count .both, "total"] ++
    String.ofList [y.sign]

def options : OptionTable where
  flags := ['1', '2', '3', 'z', 'κ', 'ν', 'τ']
  valued := ['δ']
  long := [("check-order", 'κ'), ("nocheck-order", 'ν'), ("output-delimiter", 'δ'),
    ("total", 'τ'), ("zero-terminated", 'z')]

def layout (i : Invocation) : Layout where
  hidden := [('1', Part.first), ('2', .second), ('3', .both)].filterMap fun (c, p) =>
    if i.has c then some p else none
  separator := match i.value? 'δ' with
    | some "" => String.ofList [Char.ofNat 0]
    | some text => text
    | none => "\t"
  sign := closingSign i
  total := i.has 'τ'

def watch (i : Invocation) : Watch :=
  match (i.options.filter fun o => o.1 == 'κ' || o.1 == 'ν').getLast? with
  | some ('κ', _) => .always
  | some _ => .never
  | none => .onceUnpaired

def linesOf (sign : Char) (b : Bytes) : List (List Char) :=
  (closedRecords sign (chars b)).map fun l => if l.getLast? = some sign then l.dropLast else l

def share (name : String) (i : Invocation) (l m : Bytes) : Running Nat := do
  let y := layout i
  let w := watch i
  let first := linesOf y.sign l
  let second := linesOf y.sign m
  let all := events w (first.length + second.length) false { lines := first } { lines := second }
  let shown := if w = .always then untilDisorder all else all
  for e in withoutRepeats [] shown do
    match e with
    | .line p text => print (y.line p text)
    | .disorder p =>
      printError (name ++ ": file " ++ (if p = .first then "1" else "2") ++
        " is not in sorted order\n")
  let isTorn := shown.any Event.isDisorder
  if y.total && !(isTorn && w == .always) then print (y.totals shown)
  if isTorn && w != .always then printError (name ++ ": input is not in sorted order\n")
  return if isTorn then 1 else 0

def showShared : Tool :=
  withOptions options 1 fun _ name i => do
    let delimiters := (i.options.filter (·.1 == 'δ')).map (·.2)
    if delimiters.eraseDups.length > 1 then
      return ← complain name "multiple output delimiters specified"
    match i.operands with
    | [] => misuse name "missing operand" 1
    | [a] => misuse name ("missing operand after " ++ quotedText a) 1
    | [a, b] =>
      match ← contentOf a with
      | .error e => complain name (shownPath a ++ ": " ++ e.reason)
      | .ok l =>
        match ← contentOf b with
        | .error e => complain name (shownPath b ++ ": " ++ e.reason)
        | .ok m => share name i l m
    | _ :: _ :: extra :: _ => misuse name ("extra operand " ++ quotedText extra) 1

end WasmBundle.Shell.Sharing
