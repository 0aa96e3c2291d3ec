import WasmBundle.Shell.Decimal
import WasmBundle.Shell.Octets

/-!
# Orders of texts

How texts compare: by their characters, as numbers, as sizes with units, as names of months, and as
names with versions, where numbers in them count as such.
-/

namespace WasmBundle.Shell.Sorting

def compareTexts (a b : List Char) : Ordering := compareOfLessAndEq a b

def isGap (c : Char) : Bool := isSpace c || c = '\n'

/-- The number at the start of a text, with the digits of a fraction without zeros at their end. -/
structure Leading where
  negative : Bool
  whole : Nat
  fraction : List Char

def leading (text : List Char) : Leading :=
  let cs := text.dropWhile isGap
  let (negative, cs) :=
    match cs with
    | '-' :: rest => (true, rest)
    | _ => (false, cs)
  let whole := cs.takeWhile Char.isDigit
  let fraction :=
    match cs.drop whole.length with
    | '.' :: rest => rest.takeWhile Char.isDigit
    | _ => []
  let fraction := (fraction.reverse.dropWhile (· = '0')).reverse
  let n := Numeral.ofDigits 10 whole
  { negative := negative && (n ≠ 0 || !fraction.isEmpty), whole := n, fraction }

/-- The order of numbers, with anything else for zero. -/
def compareNumbers (a b : List Char) : Ordering :=
  let m := leading a
  let n := leading b
  let sizes := (compare m.whole n.whole).then (compareTexts m.fraction n.fraction)
  match m.negative, n.negative with
  | false, false => sizes
  | true, true => sizes.swap
  | true, false => .lt
  | false, true => .gt

def unitLetters : List Char := ['K', 'M', 'G', 'T', 'P', 'E', 'Z', 'Y', 'R', 'Q']

/-- The rank of the unit behind a number, less than zero for a number that is. -/
def unitRank (text : List Char) : Int :=
  let cs := text.dropWhile isGap
  let (negative, cs) :=
    match cs with
    | '-' :: rest => (true, rest)
    | _ => (false, cs)
  let whole := cs.takeWhile Char.isDigit
  let rest := cs.drop whole.length
  let (fraction, rest) :=
    match rest with
    | '.' :: more => (more.takeWhile Char.isDigit, more.dropWhile Char.isDigit)
    | _ => ([], rest)
  if (whole ++ fraction).all (· = '0') then 0
  else
    let rank :=
      match rest.head? with
      | some 'k' => 1
      | some c => ((unitLetters.findIdx? (· == c)).map (· + 1)).getD 0
      | none => 0
    if negative then -(rank : Int) else rank

/-- The order of sizes with units: the unit counts first. -/
def compareSizes (a b : List Char) : Ordering :=
  (compare (unitRank a) (unitRank b)).then (compareNumbers a b)

def signedUpper (r : Decimal.Ratio) : Int := if r.negative then -(r.upper : Int) else r.upper

/-- The place of a number in an order that has what is no number first, and then what says so. -/
def numberRank : Option Decimal.Number → Nat
  | none => 0
  | some .none => 1
  | some (.infinite true) => 2
  | some (.finite _) => 3
  | some (.infinite false) => 4

def compareValues (a b : List Char) : Ordering :=
  let value := fun (cs : List Char) =>
    (Decimal.literal? cs).map fun l => Decimal.numberOf l.1 l.2.1
  match value a, value b with
  | some (.finite x), some (.finite y) =>
    compare (signedUpper x * y.lower) (signedUpper y * x.lower)
  | x, y => compare (numberRank x) (numberRank y)

def months : List String :=
  ["JAN", "FEB", "MAR", "APR", "MAY", "JUN", "JUL", "AUG", "SEP", "OCT", "NOV", "DEC"]

/-- The number of the month that a text starts with, or zero. -/
def monthRank (text : List Char) : Nat :=
  let start := (text.dropWhile isGap).take 3 |>.map Char.toUpper
  ((months.findIdx? fun m => m.toList == start).map (· + 1)).getD 0

def compareMonths (a b : List Char) : Ordering := compare (monthRank a) (monthRank b)

/-- The rank of what comes next in a name where it is no number: the end of a name stands before
everything but `~`, and letters before other signs. -/
def signRank (cs : List Char) : Int :=
  match cs with
  | [] => -1
  | c :: _ =>
    if c.isDigit then 0
    else if c.isAlpha then c.toNat
    else if c = '~' then -2
    else c.toNat + 256

def compareParts : Nat → List Char → List Char → Ordering
  | 0, _, _ => .eq
  | _, [], [] => .eq
  | limit + 1, a, b =>
    let isSign := fun (cs : List Char) => cs.head?.any fun c => !c.isDigit
    if isSign a ∨ isSign b then
      match compare (signRank a) (signRank b) with
      | .eq => compareParts limit (a.drop 1) (b.drop 1)
      | o => o
    else
      let x := a.takeWhile Char.isDigit
      let y := b.takeWhile Char.isDigit
      match compare (Numeral.ofDigits 10 x) (Numeral.ofDigits 10 y) with
      | .eq => compareParts limit (a.drop x.length) (b.drop y.length)
      | o => o

def startsSuffix : List Char → Bool
  | '.' :: c :: _ => c.isAlpha || c == '~'
  | _ => false

/-- How long a name is without the suffixes behind it, which start with a point and a letter. A name
is more than its suffixes. -/
def stemLength (cs : List Char) : Nat :=
  let isInner := fun (c : Char) => c.isAlphanum || c = '~'
  let rec go : Nat → Nat → Nat → List Char → Nat
    | 0, _, stem, _ => stem
    | _, _, stem, [] => stem
    | limit + 1, place, stem, rest =>
      if startsSuffix rest ∧ 0 < place then
        let inner := (rest.drop 2).takeWhile isInner
        go limit (place + 2 + inner.length) stem (rest.drop (2 + inner.length))
      else go limit (place + 1) (place + 1) (rest.drop 1)
  go cs.length 0 0 cs

def compareVersions (a b : List Char) : Ordering :=
  let rank := fun (cs : List Char) =>
    if cs.isEmpty then 0
    else if cs = ['.'] then 1
    else if cs = ['.', '.'] then 2
    else if cs.head? = some '.' then 3
    else 4
  match compare (rank a) (rank b) with
  | .eq =>
    let limit := a.length + b.length + 2
    (compareParts limit (a.take (stemLength a)) (b.take (stemLength b))).then
      (compareParts limit a b)
  | o => o

end WasmBundle.Shell.Sorting
