import WasmBundle.Shell.Format
import WasmBundle.Shell.Tool.Invocation

/-!
# Progressions

The tool that counts from one number to another. Numbers are reckoned with exactly; how they are
shown follows from how the arguments are written.
-/

namespace WasmBundle.Shell.Progression

open Running Tool

def signedOver (r : Decimal.Ratio) : Int := if r.negative then -(r.upper : Int) else r.upper

def compareRatios (a b : Decimal.Ratio) : Ordering :=
  compare (signedOver a * b.lower) (signedOver b * a.lower)

def behind (first step : Decimal.Ratio) (n : Nat) : Decimal.Ratio :=
  if n = 0 then first
  else
    let upper := signedOver first * step.lower + n * signedOver step * first.lower
    { negative := upper < 0, upper := upper.natAbs, lower := first.lower * step.lower }

/-- An argument, and what its notation says about that of the result. -/
structure Term where
  text : String
  value : Decimal.Number
  /-- How many characters it takes without an exponent. -/
  width : Int := 0
  /-- How many digits stand behind its point; none if that is not known. -/
  places : Option Nat := some 0

def shapeOf (cs : List Char) : Int × Nat :=
  let mantissa := cs.takeWhile fun c => c ≠ 'e' ∧ c ≠ 'E'
  let isPointed := mantissa.contains '.'
  let before := mantissa.takeWhile (· ≠ '.')
  let fraction := (mantissa.drop before.length).drop 1
  let size : Int := mantissa.length
  let width :=
    if !isPointed then size
    else if fraction.isEmpty then size - 1
    else if before.getLast?.any Char.isDigit then size
    else size + 1
  if mantissa.length = cs.length then (width, fraction.length)
  else
    let (down, ds) := Numeral.sign (cs.drop (mantissa.length + 1))
    let n := Numeral.ofDigits 10 (ds.takeWhile Char.isDigit)
    if down then
      let width := if !isPointed ∨ fraction.isEmpty then width + 1 else width
      (width + n, fraction.length + n)
    else
      let places := fraction.length - n
      let width := if isPointed ∧ places = 0 ∧ !fraction.isEmpty then width - 1 else width
      (width + ((n - fraction.length : Nat) : Int), places)

/-- The number that an argument is; none if it is no number. -/
def term? (text : String) : Option Term := do
  let (negative, l, rest) ← Decimal.literal? text.toList
  if !rest.isEmpty then none
  else
    let cs := text.toList.dropWhile fun c => Numeral.isBlank c ∨ c = '+'
    let value := Decimal.numberOf negative l
    let isPlain := !cs.contains 'x' && !cs.contains 'X' && value matches .finite _
    if isPlain then
      let (width, places) := shapeOf cs
      return { text, value, width, places := some places }
    else
      let hasPlaces := cs.contains '.' || cs.contains 'p'
      return { text, value, places := if hasPlaces then none else some 0 }

/-- How numbers are shown: a directive between two texts. -/
structure Layout where
  before : String := ""
  directive : Format.Directive
  after : String := ""

inductive LayoutFault where
  | noDirective
  | endsInPercent
  | unknown (letter : Char)
  | tooMany
  deriving DecidableEq, Repr

def LayoutFault.message (format : String) (f : LayoutFault) : String :=
  "format " ++ quotedText format ++
    match f with
    | .noDirective => " has no % directive"
    | .endsInPercent => " ends in %"
    | .unknown letter => " has unknown %" ++ String.ofList [letter] ++ " directive"
    | .tooMany => " has too many % directives"

/-- The text up to a directive with its doubled percent signs made single, and what follows the sign
of the directive. -/
def untilDirective : List Char → List Char × Option (List Char)
  | '%' :: '%' :: rest =>
    let (text, left) := untilDirective rest
    ('%' :: text, left)
  | '%' :: rest => ([], some rest)
  | c :: rest =>
    let (text, left) := untilDirective rest
    (c :: text, left)
  | [] => ([], none)

def layout? (format : String) : Except LayoutFault Layout := do
  let (before, directive) := untilDirective format.toList
  match directive with
  | none => throw .noDirective
  | some cs =>
    let flags := cs.takeWhile fun c => Format.flagSigns.contains c ∨ c = apostrophe
    let (width, rest) := Format.sizeAt (cs.drop flags.length)
    let (precision, rest) :=
      match rest with
      | '.' :: r =>
        let (p, left) := Format.sizeAt r
        (some (p.getD (.given 0)), left)
      | _ => (none, rest)
    let rest := if rest.head? = some 'L' then rest.drop 1 else rest
    match rest with
    | [] => throw .endsInPercent
    | letter :: rest =>
      if !(['e', 'f', 'g', 'a'].contains letter.toLower) then throw (.unknown letter)
      let (after, more) := untilDirective rest
      if more.isSome then throw .tooMany
      return {
        before := String.ofList before
        directive := { flags, width, precision, letter }
        after := String.ofList after }

/-- The layout of numbers that have some digits behind their point, or all that count. -/
def plainLayout (places : Option Nat) (width : Int) : Layout where
  directive :=
    match places with
    | some n =>
      { flags := if width > 0 then ['0'] else [], precision := some (.given n), letter := 'f'
        width := if width > 0 then some (.given width.toNat) else none }
    | none => { flags := [], width := none, precision := none, letter := 'g' }

/-- The layout that follows from the notation of the arguments. -/
def usualLayout (isWide : Bool) (first step last : Term) : Layout :=
  match first.places, step.places, last.places with
  | some p, some q, some r =>
    let places := max p q
    let firstWidth := first.width + ((places - p : Nat) : Int) +
      (if p = 0 ∧ places > 0 then 1 else 0)
    let lastWidth := last.width + ((places : Int) - r) +
      (if r > 0 ∧ places = 0 then -1 else if r = 0 ∧ places > 0 then 1 else 0)
    plainLayout (some places) (if isWide then max firstWidth lastWidth else 0)
  | _, _, _ => plainLayout none 0

def sizeOf : Option Format.Size → Option Nat
  | some (.given n) => some n
  | _ => none

/-- A number in a layout, without the texts around it. -/
def Layout.number (l : Layout) (r : Decimal.Ratio) : String :=
  let d := l.directive
  let left := d.flags.contains '-'
  let keepsPoint := d.flags.contains '#'
  let digits := Decimal.shown r d.letter ((sizeOf d.precision).getD 6) keepsPoint
  Format.numberText d.flags left ((sizeOf d.width).getD 0) none
    (Format.signText d.flags r.negative) digits

def Layout.shown (l : Layout) (r : Decimal.Ratio) : String := l.before ++ l.number r ++ l.after

/-- Whether the number behind the last one counts nevertheless: it is shown as that, and not as the
one before it. -/
def isShownAsLast (l : Layout) (last before extra : Decimal.Ratio) : Bool :=
  let text := l.number extra
  l.number before != text &&
    match Decimal.literal? text.toList with
    | some (negative, size, []) =>
      match Decimal.numberOf negative size with
      | .finite r => compareRatios r last == .eq
      | _ => false
    | _ => false

def texts (l : Layout) (first step last : Decimal.Ratio) : List String :=
  let isBeyond := fun (x : Decimal.Ratio) =>
    if step.negative then compareRatios x last == .lt else compareRatios last x == .lt
  if isBeyond first then []
  else
    let distance := signedOver last * first.lower - signedOver first * last.lower
    let steps := (distance * step.lower).natAbs / (step.upper * first.lower * last.lower)
    let final := behind first step steps
    let extra := behind first step (steps + 1)
    let count := if isShownAsLast l last final extra then steps + 2 else steps + 1
    (List.range count).map fun n => l.shown (behind first step n)

/-- Options, which end at the first operand; a number is one even if it is negative. -/
def splitOptions : List String → List String × List String
  | [] => ([], [])
  | a :: rest =>
    match a.toList with
    | '-' :: c :: _ =>
      if c = '.' ∨ c.isDigit then ([], a :: rest)
      else if a = "--" then ([], rest)
      else if ["-s", "-f", "--separator", "--format"].contains a then
        match rest with
        | [] => ([a], [])
        | value :: more =>
          let (options, operands) := splitOptions more
          (a :: value :: options, operands)
      else
        let (options, operands) := splitOptions rest
        (a :: options, operands)
    | _ => ([], a :: rest)

def options : OptionTable where
  flags := ['w']
  valued := ['s', 'f']
  long := [("equal-width", 'w'), ("separator", 's'), ("format", 'f')]

def isZero (t : Term) : Bool :=
  match t.value with
  | .finite r => r.upper == 0
  | _ => false

def printTexts (separator : String) (l : Layout) (first step last : Decimal.Number) :
    Running Nat := do
  match first, step, last with
  | .finite a, .finite s, .finite b =>
    let shown := texts l a s b
    if !shown.isEmpty then print (separator.intercalate shown ++ "\n")
    return 0
  | _, _, _ => return 0

/-- The terms that operands are; the status of a complaint about one that is none. -/
def terms (name : String) : Nat → List String → Running (Except Nat (List Term))
  | _, [] => return .ok []
  | place, o :: rest => do
    let fault? :=
      match term? o with
      | none => some ("invalid floating point argument: " ++ quotedText o)
      | some t =>
        if t.value matches .none then
          some ("invalid " ++ quoted "not-a-number" ++ " argument: " ++ quotedText o)
        else if place = 1 ∧ !rest.isEmpty ∧ isZero t then
          some ("invalid Zero increment value: " ++ quotedText o)
        else none
    match fault? with
    | some text => return .error (← misuse name text 1)
    | none =>
      match ← terms name (place + 1) rest with
      | .error status => return .error status
      | .ok others => return .ok ((term? o).toList ++ others)

def count : Tool := fun r name arguments => do
  let (given, operands) := splitOptions arguments
  withOptions options 1 (fun _ name i => do
    let one : Term := { text := "1", value := .finite ⟨false, 1, 1⟩, width := 1 }
    let format := (i.value? 'f').map fun f => (f, layout? f)
    match operands, format with
    | [], _ => misuse name "missing operand" 1
    | _ :: _ :: _ :: extra :: _, _ => misuse name ("extra operand " ++ quotedText extra) 1
    | _, some (f, .error fault) => complain name (fault.message f)
    | _, _ =>
      if i.has 'w' ∧ i.has 'f' then
        misuse name "format string may not be specified when printing equal width strings" 1
      else
        let list := fun (first step last : Term) =>
          let usual := usualLayout (i.has 'w') first step last
          let l := match format with
            | some (_, .ok l) => l
            | _ => usual
          printTexts ((i.value? 's').getD "\n") l first.value step.value last.value
        match ← terms name 0 operands with
        | .error status => return status
        | .ok [last] => list one one last
        | .ok [first, last] => list first one last
        | .ok [first, step, last] => list first step last
        | .ok _ => return 1) r name given

end WasmBundle.Shell.Progression
