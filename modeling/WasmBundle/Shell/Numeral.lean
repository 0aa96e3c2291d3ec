import WasmBundle.Shell.Octets

/-!
# Numbers in text

Whole numbers as the shell and its commands read them: in decimal digits, or in the base that the
first digits name. They have 64 bits; what lies beyond is cut to the nearest bound.
-/

namespace WasmBundle.Shell.Numeral

def digit? (c : Char) : Option Nat :=
  if c.isDigit then some (c.toNat - '0'.toNat)
  else if c.isLower then some (c.toNat - 'a'.toNat + 10)
  else if c.isUpper then some (c.toNat - 'A'.toNat + 10)
  else none

def isDigitOf (base : Nat) (c : Char) : Bool := (digit? c).any (· < base)

def ofDigits (base : Nat) (cs : List Char) : Nat :=
  cs.foldl (fun n c => base * n + (digit? c).getD 0) 0

/-- The digits at the start of a text, read in a base, and what follows them. -/
def leading (base : Nat) (cs : List Char) : Nat × List Char :=
  let digits := cs.takeWhile (isDigitOf base)
  (ofDigits base digits, cs.drop digits.length)

/-- The number at the start of a text, in the base that its first digits name. -/
def leadingAnyBase (cs : List Char) : Nat × List Char :=
  match cs with
  | '0' :: x :: d :: rest =>
    if (x = 'x' ∨ x = 'X') ∧ isDigitOf 16 d then leading 16 (d :: rest)
    else if (x = 'b' ∨ x = 'B') ∧ isDigitOf 2 d then leading 2 (d :: rest)
    else leading 8 cs
  | '0' :: rest => leading 8 ('0' :: rest)
  | _ => leading 10 cs

def greatest : Int := 9223372036854775807

def least : Int := -9223372036854775808

def clamp (n : Int) : Int := max least (min n greatest)

def isBlank (c : Char) : Bool := c = ' ' ∨ (9 ≤ c.toNat ∧ c.toNat ≤ 13)

/-- A sign at the start of a text, and what follows it. -/
def sign (cs : List Char) : Bool × List Char :=
  match cs with
  | '-' :: rest => (true, rest)
  | '+' :: rest => (false, rest)
  | _ => (false, cs)

/-- The number at the start of a text, with blanks and a sign before it, and what follows it; none
if there is no digit. -/
def prefixOf? (anyBase : Bool) (text : String) : Option (Int × List Char) :=
  let (negative, cs) := sign (text.toList.dropWhile isBlank)
  if cs.head?.any Char.isDigit then
    let (n, rest) := if anyBase then leadingAnyBase cs else leading 10 cs
    some (clamp (if negative then -(n : Int) else n), rest)
  else none

/-- The number a text is, with blanks around it. -/
def whole? (anyBase : Bool) (text : String) : Option Int :=
  match prefixOf? anyBase text with
  | some (n, rest) => if rest.all isBlank then some n else none
  | none => none

/-- A count: decimal digits and nothing else. -/
def count? (text : String) : Option Nat :=
  let cs := text.toList
  if !cs.isEmpty ∧ cs.all Char.isDigit then some (ofDigits 10 cs) else none

end WasmBundle.Shell.Numeral
