import WasmBundle.Shell.Numeral
import WasmBundle.Shell.Pattern
import WasmBundle.Shell.Tool.Quoting

/-!
# Sets of characters

How a set of characters is described: characters, escapes, ranges, classes in brackets, and
characters that are repeated. The order in a set matters, since its characters are paired with those
of another one.
-/

namespace WasmBundle.Shell.Exchange

/-- A character of a description, and whether it was written as an escape. An escaped character
never has a meaning of its own. -/
structure Sign where
  char : Char
  escaped : Bool
  deriving DecidableEq, Repr

def Sign.is (s : Sign) (c : Char) : Bool := s.char == c && !s.escaped

inductive SetFault where
  | reversed (first last : Char)
  | missingClass
  | unknownClass (name : String)
  | missingEquivalent
  | equivalentText (text : String)
  | repeatCount (text : String)
  deriving DecidableEq, Repr

def printableText (l : List Char) : String :=
  String.ofList (l.flatMap fun c =>
    if c = '\\' then ['\\', '\\'] else if Tool.isPrintable c then [c] else Tool.escape c)

/-- An end of a range as messages show it: by its number if it cannot be printed. -/
def printable (c : Char) : String :=
  String.ofList (if Tool.isPrintable c then [c] else Tool.octalEscape c)

def SetFault.message : SetFault → String
  | .reversed first last =>
    "range-endpoints of " ++ quoted (printable first ++ "-" ++ printable last) ++
      " are in reverse collating sequence order"
  | .missingClass => "missing character class name " ++ quoted "[::]"
  | .unknownClass name =>
    "invalid character class " ++ Tool.quotedText (printableText name.toList)
  | .missingEquivalent => "missing equivalence class character " ++ quoted "[==]"
  | .equivalentText text =>
    printableText text.toList ++ ": equivalence class operand must be a single character"
  | .repeatCount text =>
    "invalid repeat count " ++ Tool.quotedText (printableText text.toList) ++
      " in [c*n] construct"

def octalDigit? (c : Char) : Option Nat :=
  if '0' ≤ c ∧ c ≤ '7' then some (c.toNat - '0'.toNat) else none

/-- The character of up to three octal digits, how many of them belong to it, and a warning if the
third one would have made it too great. -/
def octal (digits : List Char) : Char × Nat × List String :=
  let number := fun (l : List Char) => Numeral.ofDigits 8 l
  let text := String.ofList digits
  if number digits < 256 then (Char.ofNat (number digits), digits.length, [])
  else
    (Char.ofNat (number (digits.take 2)), 2,
      ["the ambiguous octal escape \\" ++ text ++
        " is being\n\tinterpreted as the 2-byte sequence \\0" ++
        String.ofList (digits.take 2) ++ ", " ++ String.ofList (digits.drop 2)])

/-- What stands behind a backslash: a sign, how many characters it takes up, and warnings. -/
def escapeAt : List Char → Sign × Nat × List String
  | [] =>
    ({ char := '\\', escaped := false }, 0,
      ["an unescaped backslash at end of string is not portable"])
  | c :: rest =>
    if (octalDigit? c).isSome then
      let (char, n, warnings) := octal ((c :: rest).take 3 |>.takeWhile (octalDigit? · |>.isSome))
      ({ char, escaped := true }, n, warnings)
    else
      let letters := [('a', 7), ('b', 8), ('f', 12), ('n', 10), ('r', 13), ('t', 9), ('v', 11)]
      ({ char := ((letters.lookup c).map Char.ofNat).getD c, escaped := true }, 1, [])

/-- The signs of a description, of which the first characters are left out, and the warnings about
its escapes. -/
def signsAfter : Nat → List Char → List Sign × List String
  | _, [] => ([], [])
  | skipped + 1, _ :: rest => signsAfter skipped rest
  | 0, c :: rest =>
    let (sign, n, warnings) :=
      if c = '\\' then escapeAt rest else ({ char := c, escaped := false }, 0, [])
    let (others, more) := signsAfter n rest
    (sign :: others, warnings ++ more)

def signs (text : String) : List Sign × List String := signsAfter 0 text.toList

inductive Part where
  | single (c : Char)
  | range (first last : Char)
  | named (name : String)
  | equivalent (c : Char)
  | repeated (c : Char) (count : Nat)
  /-- As many of a character as are needed. -/
  | fill (c : Char)
  deriving DecidableEq, Repr

def allChars : List Char := (List.range 256).map Char.ofNat

def classNames : List String :=
  ["alnum", "alpha", "blank", "cntrl", "digit", "graph", "lower", "print", "punct", "space",
    "upper", "xdigit"]

def Part.members : Part → List Char
  | .single c => [c]
  | .range a b => (List.range (b.toNat - a.toNat + 1)).map fun i => Char.ofNat (a.toNat + i)
  | .named name => allChars.filter (inNamedClass name)
  | .equivalent c => [c]
  | .repeated c n => List.replicate n c
  | .fill _ => []

def members (l : List Part) : List Char := l.flatMap Part.members

/-- What stands before a mark with a bracket behind it, and what follows. -/
def delimited? (mark : Char) : List Sign → Option (List Sign × List Sign)
  | a :: b :: rest =>
    if a.is mark && b.is ']' then some ([], rest)
    else (delimited? mark (b :: rest)).map fun (inner, left) => (a :: inner, left)
  | _ => none

/-- Whether a star, digits and a bracket stand first. -/
def startsWithCount (l : List Sign) : Bool :=
  l.head?.any (·.is '*') && (l.tail.dropWhile (·.char.isDigit)).head?.any (·.is ']')

/-- The number of a repetition: in octal digits if it begins with a zero. -/
def repeatCount? (text : List Char) : Option Nat :=
  let base := if text.head? = some '0' then 8 else 10
  let (negative, cs) := Numeral.sign (text.dropWhile Numeral.isBlank)
  let (n, rest) := Numeral.leading base cs
  if negative ∨ !cs.head?.any Char.isDigit ∨ !rest.isEmpty ∨ UInt64.size ≤ n then none else some n

/-- A repetition, behind its opening bracket. -/
def repetition? : List Sign → Except SetFault (Option (Part × List Sign))
  | c :: star :: rest =>
    let inner := rest.takeWhile fun s => s.char != ']' && !s.escaped
    let left := rest.drop inner.length
    if !star.is '*' || !left.head?.any (·.is ']') then .ok none
    else
      let text := inner.map (·.char)
      if text.isEmpty then .ok (some (.fill c.char, left.tail))
      else
        match repeatCount? text with
        | some 0 => .ok (some (.fill c.char, left.tail))
        | some n => .ok (some (.repeated c.char n, left.tail))
        | none => .error (.repeatCount (String.ofList text))
  | _ => .ok none

/-- A class or an equivalent behind its opening bracket, between two marks. -/
def marked (mark : Char) (inner : List Char) : Except SetFault Part :=
  let text := String.ofList inner
  if mark = ':' then
    if inner.isEmpty then .error .missingClass
    else if classNames.contains text then .ok (.named text)
    else .error (.unknownClass text)
  else
    match inner with
    | [] => .error .missingEquivalent
    | [c] => .ok (.equivalent c)
    | _ => .error (.equivalentText text)

/-- What an opening bracket starts, if it means anything. -/
def construct? (l : List Sign) : Except SetFault (Option (Part × List Sign)) :=
  match l with
  | mark :: rest =>
    let found := if mark.is ':' || mark.is '=' then delimited? mark.char rest else none
    match found with
    | none => repetition? l
    | some (inner, left) =>
      match marked mark.char (inner.map (·.char)) with
      | .ok part => .ok (some (part, left))
      | .error e =>
        if startsWithCount rest ∧ !inner.isEmpty then repetition? l else .error e
  | [] => .ok none

/-- The parts that signs make up. Two signs or fewer mean themselves. -/
def partsUpTo : Nat → List Sign → Except SetFault (List Part)
  | limit + 1, a :: b :: c :: rest => do
    let found ← if a.is '[' then construct? (b :: c :: rest) else pure none
    match found with
    | some (part, left) => return part :: (← partsUpTo limit left)
    | none =>
      if b.is '-' then
        if c.char < a.char then throw (.reversed a.char c.char)
        else return .range a.char c.char :: (← partsUpTo limit rest)
      else return .single a.char :: (← partsUpTo limit (b :: c :: rest))
  | _, l => .ok (l.map fun s => .single s.char)

def parts (l : List Sign) : Except SetFault (List Part) := partsUpTo l.length l

structure Place where
  char : Char
  /-- Whether the character belongs to a class of capitals, or to one of small letters. -/
  capital : Option Bool
  /-- Whether a part begins here. -/
  first : Bool
  deriving DecidableEq, Repr

def Part.capital? : Part → Option Bool
  | .named name => if name = "upper" then some true else if name = "lower" then some false else none
  | _ => none

def Part.places (p : Part) : List Place :=
  p.members.zipIdx.map fun (c, n) => { char := c, capital := p.capital?, first := n == 0 }

def places (l : List Part) : List Place := l.flatMap Part.places

end WasmBundle.Shell.Exchange
