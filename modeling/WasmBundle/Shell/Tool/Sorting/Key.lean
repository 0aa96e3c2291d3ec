import WasmBundle.Shell.Tool.Quoting
import WasmBundle.Shell.Tool.Sorting.Order

/-!
# Keys of lines

A key is a part of a line, from a field to a field, and a way to compare such parts. Lines are
ordered by one key after another, and where all of them are equal by the lines themselves.
-/

namespace WasmBundle.Shell.Sorting

structure Manner where
  /-- Whether blanks before the start do not count, and before the end. -/
  skipsStart : Bool := false
  skipsEnd : Bool := false
  /-- Whether only letters, digits and blanks count. -/
  dictionary : Bool := false
  /-- Whether only what can be printed counts. -/
  printable : Bool := false
  ignoresCase : Bool := false
  /-- The letters of the orders that are asked for. -/
  kinds : List Char := []
  reversed : Bool := false
  deriving DecidableEq, Repr

/-- The letters of orders other than that of characters. -/
def kindLetters : List Char := ['g', 'h', 'M', 'n', 'R', 'V']

/-- Whether a manner is the usual one, up to its direction. -/
def Manner.isPlain (m : Manner) : Bool := { m with reversed := false } == ({} : Manner)

/-- A manner with what a letter says, which may be about the start or the end of a part; none for a
letter that says nothing. -/
def Manner.with? (m : Manner) (atStart atEnd : Bool) (c : Char) : Option Manner :=
  match c with
  | 'b' =>
    some { m with skipsStart := m.skipsStart || atStart, skipsEnd := m.skipsEnd || atEnd }
  | 'd' => some { m with dictionary := true }
  | 'f' => some { m with ignoresCase := true }
  | 'i' => some { m with printable := true }
  | 'r' => some { m with reversed := true }
  | _ => if kindLetters.contains c then some { m with kinds := c :: m.kinds } else none

def Manner.letters (m : Manner) : List Char :=
  let kind := fun (c : Char) => if m.kinds.contains c then [c] else []
  (if m.dictionary then ['d'] else []) ++ (if m.ignoresCase then ['f'] else []) ++ kind 'g' ++
    kind 'h' ++ (if m.printable ∧ !m.dictionary then ['i'] else []) ++ kind 'M' ++ kind 'n' ++
    kind 'R' ++ kind 'V'

def Manner.isTorn (m : Manner) : Bool :=
  let count := fun (c : Char) => if m.kinds.contains c then 1 else 0
  let others := m.kinds.contains 'V' || m.kinds.contains 'R' || m.dictionary || m.printable
  1 < count 'n' + count 'g' + count 'h' + count 'M' + (if others then 1 else 0)

/-- A key. Fields and characters count from zero; without a field the part is open there. -/
structure Key where
  first : Nat := 0
  skipped : Nat := 0
  last : Option Nat := none
  /-- How many characters of the last field belong to the part; zero for all of them. -/
  taken : Nat := 0
  manner : Manner := {}
  deriving DecidableEq, Repr

/-- The count at the start of a text and what follows it, or what is said of it. -/
def count? (fault : String) (cs : List Char) : Except String (Nat × List Char) :=
  let unsigned := (Numeral.sign (cs.dropWhile Numeral.isBlank))
  let digits := unsigned.2.takeWhile Char.isDigit
  if digits.isEmpty ∨ unsigned.1 then
    .error (fault ++ ": invalid count at start of " ++ Tool.quotedText (String.ofList cs))
  else .ok (Numeral.ofDigits 10 digits, unsigned.2.drop digits.length)

/-- A manner with what the letters at the start of a text say, and what follows them. -/
def letters (atStart atEnd : Bool) : Manner → List Char → Manner × List Char
  | m, [] => (m, [])
  | m, c :: rest =>
    match m.with? atStart atEnd c with
    | some m => letters atStart atEnd m rest
    | none => (m, c :: rest)

/-- The key that a text tells, or what is said of it. -/
def key? (text : String) : Except String Key := do
  let faulty := fun (fault : String) =>
    fault ++ ": invalid field specification " ++ Tool.quotedText text
  let (field, rest) ← count? "invalid number at field start" text.toList
  if field = 0 then throw (faulty "field number is zero")
  let (char, rest) ←
    match rest with
    | '.' :: more =>
      let (char, rest) ← count? "invalid number after '.'" more
      if char = 0 then throw (faulty "character offset is zero")
      pure (char - 1, rest)
    | _ => pure (0, rest)
  let (manner, rest) := letters true false {} rest
  let start : Key := { first := field - 1, skipped := char, manner }
  match rest with
  | ',' :: more =>
    let (field, rest) ← count? "invalid number after ','" more
    if field = 0 then throw (faulty "field number is zero")
    let (char, rest) ←
      match rest with
      | '.' :: more => count? "invalid number after '.'" more
      | _ => pure (0, rest)
    let (manner, rest) := letters false true manner rest
    if rest.isEmpty then return { start with last := some (field - 1), taken := char, manner }
    else throw (faulty "stray character in field spec")
  | [] => return start
  | _ => throw (faulty "stray character in field spec")

/-- What is left of a line behind its first field; with a sign between fields, behind that. -/
def behindField (separator : Option Char) (cs : List Char) : List Char :=
  match separator with
  | some c => (cs.dropWhile (· ≠ c)).drop 1
  | none => (cs.dropWhile isGap).dropWhile fun c => !isGap c

def Key.start (k : Key) (separator : Option Char) (line : List Char) : List Char :=
  let rec skip : Nat → List Char → List Char
    | 0, cs => cs
    | n + 1, cs => if cs.isEmpty then cs else skip n (behindField separator cs)
  let rest := skip k.first line
  let rest := if k.manner.skipsStart then rest.dropWhile isGap else rest
  rest.drop k.skipped

def Key.rest (k : Key) (separator : Option Char) (line : List Char) : List Char :=
  match k.last with
  | none => []
  | some last =>
    let rec skip : Nat → List Char → List Char
      | 0, cs => cs
      | n + 1, cs =>
        if cs.isEmpty then cs
        else
          match separator with
          | some c =>
            let rest := cs.dropWhile (· ≠ c)
            skip n (if 0 < n ∨ 0 < k.taken then rest.drop 1 else rest)
          | none => skip n (behindField none cs)
    if k.taken = 0 then skip (last + 1) line
    else
      let rest := skip last line
      let rest := if k.manner.skipsEnd then rest.dropWhile isGap else rest
      rest.drop k.taken

def Key.part (k : Key) (separator : Option Char) (line : List Char) : List Char :=
  let start := k.start separator line
  start.take (start.length - (k.rest separator line).length)

def Manner.prepared (m : Manner) (cs : List Char) : List Char :=
  let cs :=
    if m.dictionary then cs.filter fun c => c.isAlphanum || isGap c
    else if m.printable then cs.filter Tool.isPrintable
    else cs
  if m.ignoresCase then cs.map Char.toUpper else cs

def Manner.compare (m : Manner) (a b : List Char) : Ordering :=
  let a := m.prepared a
  let b := m.prepared b
  let order :=
    if m.kinds.contains 'n' then compareNumbers a b
    else if m.kinds.contains 'g' then compareValues a b
    else if m.kinds.contains 'h' then compareSizes a b
    else if m.kinds.contains 'M' then compareMonths a b
    else if m.kinds.contains 'V' then compareVersions a b
    else compareTexts a b
  if m.reversed then order.swap else order

structure LineOrder where
  keys : List Key := []
  separator : Option Char := none
  reversed : Bool := false
  /-- Whether lines are equal as soon as their keys are. -/
  byKeysOnly : Bool := false

def LineOrder.compare (o : LineOrder) (a b : List Char) : Ordering :=
  let byKey := fun (k : Key) => k.manner.compare (k.part o.separator a) (k.part o.separator b)
  let first := (o.keys.map byKey).foldl Ordering.then .eq
  if o.byKeysOnly ∧ !o.keys.isEmpty then first
  else first.then (if o.reversed then (compareTexts a b).swap else compareTexts a b)

end WasmBundle.Shell.Sorting
