import WasmBundle.Shell.Numeral

/-!
# Decimal fractions

Numbers with a fraction, read from text and shown in decimal notation. A number is kept as a
quotient of whole numbers, so that rounding to a number of digits is exact; a tie goes to the even
digit.
-/

namespace WasmBundle.Shell.Decimal

/-- A finite number: a quotient with a sign, which zero can have too. -/
structure Ratio where
  negative : Bool
  upper : Nat
  lower : Nat := 1
  deriving DecidableEq, Repr

inductive Number where
  | finite (r : Ratio)
  | infinite (negative : Bool)
  | none
  deriving DecidableEq, Repr

def Ratio.power (negative : Bool) (mantissa base : Nat) (exponent : Int) : Ratio :=
  { negative
    upper := mantissa * Nat.pow base exponent.toNat
    lower := Nat.pow base (-exponent).toNat }

def fractionBits : Nat := 52

def ofFloat (x : Float) : Number :=
  let bits := x.toBits.toNat
  let negative := bits / Nat.pow 2 63 == 1
  let biased := bits / Nat.pow 2 fractionBits % 2048
  let fraction := bits % Nat.pow 2 fractionBits
  if biased = 2047 then if fraction = 0 then .infinite negative else .none
  else if biased = 0 then .finite (.power negative fraction 2 (-1074))
  else .finite (.power negative (fraction + Nat.pow 2 fractionBits) 2 ((biased : Int) - 1075))

/-- A quotient rounded to the nearest whole number, a tie to the even one. -/
def roundedDiv (n d : Nat) : Nat :=
  let q := n / d
  let twice := 2 * (n % d)
  if twice < d then q else if d < twice then q + 1 else q + q % 2

/-- The size of a number times a power of ten, rounded to a whole number. -/
def scaled (r : Ratio) (tens : Int) : Nat :=
  roundedDiv (r.upper * Nat.pow 10 tens.toNat) (r.lower * Nat.pow 10 (-tens).toNat)

def digits (n : Nat) : List Char := Nat.toDigits 10 n

def pointed (n places : Nat) (keepsPoint : Bool) : String :=
  let ds := digits n
  let ds := List.replicate (places + 1 - ds.length) '0' ++ ds
  let whole := ds.take (ds.length - places)
  let fraction := ds.drop (ds.length - places)
  String.ofList (whole ++ (if places = 0 ∧ !keepsPoint then [] else '.' :: fraction))

def positional (r : Ratio) (places : Nat) (keepsPoint : Bool) : String :=
  pointed (scaled r places) places keepsPoint

/-- The decimal exponent of a number rounded to one digit before the point and `places` after it,
and its digits. Two candidates are tried, since rounding can carry. -/
def normalized (r : Ratio) (places : Nat) : Int × Nat :=
  if r.upper = 0 then (0, 0)
  else
    let enough := Nat.pow 10 places
    let guess := scaled r 400
    let exponent : Int := (digits guess).length - 401
    let n := scaled r (places - exponent)
    if n < enough then (exponent - 1, scaled r (places - exponent + 1))
    else if enough * 10 ≤ n then (exponent + 1, scaled r (places - exponent - 1))
    else (exponent, n)

def exponentText (upper : Bool) (e : Int) : String :=
  let ds := digits e.natAbs
  let ds := if ds.length < 2 then '0' :: ds else ds
  String.ofList ((if upper then 'E' else 'e') :: (if e < 0 then '-' else '+') :: ds)

def scientific (r : Ratio) (places : Nat) (keepsPoint upper : Bool) : String :=
  let (e, n) := normalized r places
  pointed n places keepsPoint ++ exponentText upper e

def withoutZeros (text : String) : String :=
  let cs := text.toList
  if cs.contains '.' then
    let kept := cs.reverse.dropWhile (· = '0')
    String.ofList (if kept.head? = some '.' then kept.drop 1 else kept).reverse
  else text

def general (r : Ratio) (precision : Nat) (keepsPoint upper : Bool) : String :=
  let precision := if precision = 0 then 1 else precision
  let (e, n) := normalized r (precision - 1)
  let clean := fun text => if keepsPoint then text else withoutZeros text
  if -4 ≤ e ∧ e < precision then
    clean (positional r ((precision : Int) - 1 - e).toNat keepsPoint)
  else clean (pointed n (precision - 1) keepsPoint) ++ exponentText upper e

def shown (r : Ratio) (letter : Char) (precision : Nat) (keepsPoint : Bool) : String :=
  let upper := letter.isUpper
  match letter.toLower with
  | 'e' => scientific r precision keepsPoint upper
  | 'g' => general r precision keepsPoint upper
  | _ => positional r precision keepsPoint

/-- How many digits of base sixteen the fraction of a floating-point value has. -/
def fractionDigits : Nat := 13

def hexDigits (width n : Nat) : List Char :=
  let ds := Nat.toDigits 16 n
  List.replicate (width - ds.length) '0' ++ ds

/-- The size of a finite floating-point value in base sixteen with a power of two, with all digits
of its fraction that count or with a number of them. -/
def hexadecimal (x : Float) (precision : Option Nat) (keepsPoint : Bool) : String :=
  let bits := x.toBits.toNat
  let biased := bits / Nat.pow 2 fractionBits % 2048
  let fraction := bits % Nat.pow 2 fractionBits
  let whole := if biased = 0 then fraction else fraction + Nat.pow 2 fractionBits
  let exponent : Int :=
    if whole = 0 then 0 else if biased = 0 then -1022 else (biased : Int) - 1023
  let places := precision.getD fractionDigits
  let cut := Nat.pow 16 (fractionDigits - places)
  let n := roundedDiv whole cut * Nat.pow 16 (places - fractionDigits)
  let unit := Nat.pow 16 places
  let ds := hexDigits places (n % unit)
  let ds :=
    if places = 0 then []
    else if precision.isSome then ds
    else (ds.reverse.dropWhile (· = '0')).reverse
  let point := if ds.isEmpty ∧ !keepsPoint then [] else '.' :: ds
  let sign := if exponent < 0 then "-" else "+"
  String.ofList (Nat.toDigits 16 (n / unit) ++ point) ++ "p" ++ sign ++ toString exponent.natAbs

inductive Literal where
  | decimal (mantissa : Nat) (tens : Int)
  | binary (mantissa : Nat) (twos : Int)
  | infinite
  | none
  deriving DecidableEq, Repr

/-- The exponent behind one of some letters, if there is one, and what follows it. -/
def exponentAt (letter : Char) (cs : List Char) : Int × List Char :=
  match cs with
  | c :: rest =>
    let (down, ds) := Numeral.sign rest
    let n := ds.takeWhile Char.isDigit
    if c.toLower = letter ∧ !n.isEmpty then
      let size : Int := min 5000 (Numeral.ofDigits 10 n)
      (if down then -size else size, ds.drop n.length)
    else (0, cs)
  | [] => (0, [])

/-- Digits of a base with a point in them: their value, how many follow the point, and the rest. -/
def pointedDigits? (base : Nat) (cs : List Char) : Option (Nat × Nat × List Char) :=
  let whole := cs.takeWhile (Numeral.isDigitOf base)
  let rest := cs.drop whole.length
  let (fraction, rest) :=
    match rest with
    | '.' :: r =>
      let f := r.takeWhile (Numeral.isDigitOf base)
      if whole.isEmpty ∧ f.isEmpty then ([], rest) else (f, r.drop f.length)
    | _ => ([], rest)
  if whole.isEmpty ∧ fraction.isEmpty then none
  else some (Numeral.ofDigits base (whole ++ fraction), fraction.length, rest)

def startsWith (word : String) (cs : List Char) : Bool :=
  (cs.take word.length).map Char.toLower == word.toList

/-- The size of the number at the start of a text without blanks and sign, and what follows it. -/
def size? (cs : List Char) : Option (Literal × List Char) :=
  let decimal := do
    let (n, places, rest) ← pointedDigits? 10 cs
    let (e, rest) := exponentAt 'e' rest
    return (Literal.decimal n (e - places), rest)
  let hexadecimal := do
    let (n, places, rest) ← pointedDigits? 16 (cs.drop 2)
    let (e, rest) := exponentAt 'p' rest
    return (Literal.binary n (e - 4 * places), rest)
  if startsWith "0x" cs then hexadecimal.or decimal
  else if startsWith "infinity" cs then some (.infinite, cs.drop 8)
  else if startsWith "inf" cs then some (.infinite, cs.drop 3)
  else if startsWith "nan" cs then some (.none, cs.drop 3)
  else decimal

/-- The number at the start of a text as its sign and its size, and what follows it. -/
def literal? (text : List Char) : Option (Bool × Literal × List Char) := do
  let (negative, cs) := Numeral.sign (text.dropWhile Numeral.isBlank)
  let (size, rest) ← size? cs
  return (negative, size, rest)

def numberOf (negative : Bool) : Literal → Number
  | .decimal n e => .finite (.power negative n 10 e)
  | .binary n e => .finite (.power negative n 2 e)
  | .infinite => .infinite negative
  | .none => .none

def floatOf (negative : Bool) (l : Literal) : Float :=
  let x : Float :=
    match l with
    | .decimal n e => Float.ofScientific n (e < 0) e.natAbs
    | .binary n e => n.toFloat.scaleB e
    | .infinite => 1 / 0
    | .none => 0 / 0
  if negative then -x else x

/-- The least size of a floating-point value that has all of its digits. -/
def leastNormal : Float := (1 : Float).scaleB (-1022)

/-- Whether a number is too great or too small for a floating-point value. -/
def isOutOfRange (l : Literal) : Bool :=
  let x := floatOf false l
  let isZero :=
    match l with
    | .decimal n _ => n == 0
    | .binary n _ => n == 0
    | .infinite => true
    | .none => true
  !isZero && (x.isInf || x < leastNormal)

end WasmBundle.Shell.Decimal
