import WasmBundle.Shell.Format

/-!
# Laying out values

Formats as programs of actions use them: text with directives, each of which takes a value. What the
values are is left to those who use a format; this module reads formats and lays out numbers.
-/

namespace WasmBundle.Shell.Actions.Layout

open Format

inductive Part where
  | char (c : Char)
  /-- A directive, and whether a size of its number is said. -/
  | directive (d : Directive) (isSized : Bool)
  deriving DecidableEq, Repr

def missingLetter : Char := Char.ofNat 0

/-- The directive behind a percent sign, and what follows it. -/
def directivePart (cs : List Char) : Part × List Char :=
  let flags := cs.takeWhile flagSigns.contains
  let (width, rest) := sizeAt (cs.drop flags.length)
  let (precision, rest) :=
    match rest with
    | '.' :: r =>
      let (p, left) := sizeAt r
      (some (p.getD (.given 0)), left)
    | _ => (none, rest)
  let sizes :=
    match rest with
    | 'l' :: 'l' :: _ => 2
    | 'l' :: _ => 1
    | 'h' :: _ => 1
    | _ => 0
  let isSized := 0 < sizes
  match rest.drop sizes with
  | [] => (.directive ⟨flags, width, precision, missingLetter⟩ isSized, [])
  | c :: after => (.directive ⟨flags, width, precision, c⟩ isSized, after)

def partsUpTo : Nat → List Char → List Part
  | 0, _ => []
  | _, [] => []
  | limit + 1, c :: rest =>
    match c, rest with
    | '%', '%' :: after => .char '%' :: partsUpTo limit after
    | '%', _ =>
      let (p, after) := directivePart rest
      p :: partsUpTo limit after
    | _, _ => .char c :: partsUpTo limit rest

/-- The parts of a format, which a zero ends. -/
def partsOf (format : String) : List Part :=
  partsUpTo format.length (format.toList.takeWhile (·.toNat ≠ 0))

structure Shape where
  directive : Directive
  left : Bool
  width : Nat
  precision : Option Nat

/-- A directive with its sizes; a negative width fills up behind the value, and a negative precision
is none. -/
def shapeOf (d : Directive) (width precision : Option Int) : Shape where
  directive := d
  left := d.flags.contains '-' || width.any (· < 0)
  width := (width.getD 0).natAbs
  precision := precision.bind fun p => if p < 0 then none else some p.toNat

/-- A floating-point number cut to a whole one; none if it is not finite. -/
def truncated? (x : Float) : Option Int :=
  match Decimal.ofFloat x with
  | .finite r =>
    let n : Int := r.upper / r.lower
    some (if r.negative then -n else n)
  | _ => none

/-- The nearest number of 64 bits, with a sign if it is below zero. -/
def signedOf (x : Float) : Int :=
  match truncated? x with
  | some n =>
    if n < -Nat.pow 2 63 then 1 - Nat.pow 2 63 else min n (Nat.pow 2 64 - 1)
  | none => if x.isNaN then -Nat.pow 2 63 else if x < 0 then 1 - Nat.pow 2 63 else Nat.pow 2 64 - 1

/-- The same without a sign: numbers below zero are counted from the greatest one. -/
def unsignedOf (x : Float) : Nat :=
  let n := signedOf x
  if n < 0 then (n + Nat.pow 2 64).toNat else n.toNat

def ofText (s : Shape) (text : String) : String :=
  let cut :=
    match s.precision with
    | some n => String.ofList (text.toList.take n)
    | none => text
  padded s.left ' ' s.width cut

def ofChar (s : Shape) (c : Char) : String := padded s.left ' ' s.width (String.ofList [c])

/-- A number as a directive for numbers lays it out. -/
def ofFloat (s : Shape) (x : Float) : String :=
  let d := s.directive
  if d.letter = 'd' ∨ d.letter = 'i' then
    let n := if d.letter = 'i' then Numeral.clamp (signedOf x) else signedOf x
    numberText d.flags s.left s.width s.precision (signText d.flags (n < 0)) (inBase 10 n.natAbs)
  else if ['o', 'u', 'x', 'X'].contains d.letter then
    naturalText d s.left s.width s.precision (unsignedOf x)
  else if x.isNaN then padded s.left ' ' s.width (if d.letter.isUpper then "-NAN" else "-nan")
  else floatText d s.left s.width s.precision x

def numberLetters : List Char :=
  ['d', 'i', 'o', 'u', 'x', 'X', 'e', 'E', 'f', 'F', 'g', 'G', 'a', 'A']

def givenSize : Option Size → Option Int
  | some (.given n) => some n
  | _ => none

def ofNumber (format : String) (x : Float) : String :=
  let piece := fun (p : Part) =>
    match p with
    | .char c => String.ofList [c]
    | .directive d _ =>
      if numberLetters.contains d.letter then
        ofFloat (shapeOf d (givenSize d.width) (givenSize d.precision)) x
      else ""
  String.join ((partsOf format).map piece)

end WasmBundle.Shell.Actions.Layout
