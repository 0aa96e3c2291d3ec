import WasmBundle.Shell.Numeral

/-!
# Sizes

Counts with a unit behind them: letters for powers of 1024, or of 1000 where a `B` follows.
-/

namespace WasmBundle.Shell.Size

def powers : List Char := ['K', 'M', 'G', 'T', 'P', 'E', 'Z', 'Y']

/-- What a unit counts; units of blocks and words only where `blocks` is set. -/
def unit? (blocks : Bool) (text : List Char) : Option Nat :=
  match text with
  | [] => some 1
  | ['b'] => if blocks then some 512 else none
  | ['c'] => if blocks then some 1 else none
  | ['w'] => if blocks then some 2 else none
  | c :: rest =>
    let letter := if c = 'k' then 'K' else if c = 'm' then 'M' else c
    match powers.findIdx? (· == letter), rest with
    | some n, [] => some (Nat.pow 1024 (n + 1))
    | some n, ['B'] => some (Nat.pow 1000 (n + 1))
    | some n, ['i', 'B'] => some (Nat.pow 1024 (n + 1))
    | _, _ => none

def parse? (blocks : Bool) (text : String) : Option Nat :=
  let digits := text.toList.takeWhile Char.isDigit
  if digits.isEmpty then none
  else (unit? blocks (text.toList.drop digits.length)).map (Numeral.ofDigits 10 digits * ·)

def outOfRange (n : Int) : String :=
  if 1073741823 < n then ": Value too large for defined data type"
  else ": Numerical result out of range"

/-- A number between two bounds, without a unit. Of any other text it gives what is added to the
complaint about it. -/
def between? (least most : Int) (text : String) : Except String Int :=
  let (negative, cs) := Numeral.sign (text.toList.dropWhile Numeral.isBlank)
  let (n, rest) := Numeral.leading 10 cs
  if !cs.head?.any Char.isDigit ∨ !rest.isEmpty ∨ (negative ∧ 0 ≤ least) then .error ""
  else
    let n : Int := if negative then -(n : Int) else n
    if n < least ∨ most < n then .error (outOfRange n) else .ok n

def tooLarge : String := ": Value too large for defined data type"

/-- The units of counts that the tools know by which lines and bytes are counted. -/
def countUnits : List Char :=
  ['b', 'k', 'K', 'm', 'M', 'G', 'T', 'P', 'E', 'Z', 'Y', 'R', 'Q']

def factor? (known : List Char) (text : List Char) : Option Nat :=
  let letters := ['K', 'M', 'G', 'T', 'P', 'E', 'Z', 'Y', 'R', 'Q']
  match text with
  | [] => some 1
  | c :: rest =>
    if !known.contains c then none
    else
      match c, letters.findIdx? (· == c.toUpper), rest with
      | 'b', _, [] => some 512
      | 'B', _, [] => some 1024
      | _, some n, [] => some (Nat.pow 1024 (n + 1))
      | _, some n, ['B'] => some (Nat.pow 1000 (n + 1))
      | _, some n, ['D'] => some (Nat.pow 1000 (n + 1))
      | _, some n, ['i', 'B'] => some (Nat.pow 1024 (n + 1))
      | _, _, _ => none

/-- A count without a sign, or with one that says nothing. Without digits a unit is meant once. Of
any other text it gives what is added to the complaint about it. -/
def counted? (known : List Char) (text : String) : Except String Nat :=
  let cs := text.toList.dropWhile Numeral.isBlank
  let (negative, unsigned) := Numeral.sign cs
  let (n, rest) := Numeral.leading 10 unsigned
  let hasDigits := unsigned.head?.any Char.isDigit
  let isUnit := !hasDigits && cs.head?.any known.contains
  match factor? known (if hasDigits then rest else cs) with
  | none => .error ""
  | some k =>
    if negative ∨ !(hasDigits || isUnit) then .error ""
    else
      let size := (if hasDigits then n else 1) * k
      if UInt64.size ≤ size then .error tooLarge else .ok size

def greatest : Int := UInt64.size - 1

end WasmBundle.Shell.Size
