import WasmBundle.Bytes
import WasmBundle.TextReader
import WasmBundle.Toml.Value

/-!
# Keys and simple values of TOML

Readers over the characters of a document in which every line ends in a line feed. A carriage return
is no character of any key or value.
-/

namespace WasmBundle.Toml

open TextReader

def isBlank (c : Char) : Bool := c = ' ' ∨ c = '\t'

def isNonAscii (c : Char) : Bool := 0x80 ≤ c.toNat

def isPrintable (c : Char) : Bool := (0x20 ≤ c.toNat ∧ c.toNat ≤ 0x7e) ∨ c = '\t' ∨ isNonAscii c

def isBareKey (c : Char) : Bool := c.isAlphanum ∨ c = '-' ∨ c = '_'

def blanks : TextReader Unit := skipWhile isBlank

/-- A comment up to the end of its line. -/
def comment : TextReader Unit := do
  char '#'
  skipWhile isPrintable

/-- The end of a line or of the document. -/
def lineEnd : TextReader Unit := do
  match ← peek with
  | none => return ()
  | some _ => char '\n'

/-- What may follow an item on its line. -/
def lineRest : TextReader Unit := do
  blanks
  let _ ← optional comment
  lineEnd

/-- Blanks, line ends and comments. -/
def whitespace : TextReader Unit := do
  skipWhile fun c => isBlank c ∨ c = '\n'
  let _ ← many do
    comment
    skipWhile fun c => isBlank c ∨ c = '\n'

/-! ## Strings -/

def simpleEscape? : Char → Option Char
  | 'b' => some (Char.ofNat 8)
  | 't' => some '\t'
  | 'n' => some '\n'
  | 'f' => some (Char.ofNat 12)
  | 'r' => some '\r'
  | '"' => some '"'
  | '\\' => some '\\'
  | _ => none

/-- The character with a hexadecimal number, which must not be a surrogate. -/
def scalarValue? (digits : List Char) : Option Char := do
  let n ← digits.foldlM (fun n d => do return 16 * n + (← Bytes.hexValue? d)) 0
  if n < 0xd800 ∨ (0xdfff < n ∧ n < 0x110000) then return Char.ofNat n else none

/-- What an escape stands for, read after the backslash. -/
def escape? : List Char → Option (Char × List Char)
  | 'u' :: a :: b :: c :: d :: r => (scalarValue? [a, b, c, d]).map (·, r)
  | 'U' :: a :: b :: c :: d :: e :: f :: g :: h :: r =>
    (scalarValue? [a, b, c, d, e, f, g, h]).map (·, r)
  | c :: r => (simpleEscape? c).map (·, r)
  | [] => none

def basicChar : TextReader Char := do
  let c ← satisfying fun c => isPrintable c ∧ c ≠ '"'
  if c = '\\' then escape? else return c

def basicString : TextReader String := do
  char '"'
  let cs ← many basicChar
  char '"'
  return String.ofList cs

def literalString : TextReader String := do
  char '\''
  let cs ← takeWhile fun c => isPrintable c ∧ c ≠ '\''
  char '\''
  return String.ofList cs

/-- A backslash at the end of a line takes the line end and all blanks and line ends after it
away. -/
def foldedLine : TextReader Unit := do
  char '\\'
  blanks
  char '\n'
  skipWhile fun c => isBlank c ∨ c = '\n'

/-- Fails before three quotes, which end a string of several lines. -/
def notClosing (quote : Char) : TextReader Unit := fun cs =>
  if [quote, quote, quote].isPrefixOf cs then none else some ((), cs)

/-- Three quotes, with up to two more in front that belong to the string. -/
def closing (quote : Char) : TextReader (List Char) := do
  keyword [quote, quote, quote]
  let first ← optional (char quote)
  let second ← optional (char quote)
  return (first.toList ++ second.toList).map fun _ => quote

/-- A piece of a string of several lines. -/
def multilineBasicPiece : TextReader (List Char) := do
  notClosing '"'
  (do foldedLine; return []) <|> do
    let c ← satisfying fun c => isPrintable c ∨ c = '\n'
    if c = '\\' then return [← escape?] else return [c]

def multilineBasicString : TextReader String := do
  keyword ['"', '"', '"']
  let _ ← optional (char '\n')
  let cs ← many multilineBasicPiece
  let ending ← closing '"'
  return String.ofList (cs.flatten ++ ending)

def multilineLiteralString : TextReader String := do
  keyword ['\'', '\'', '\'']
  let _ ← optional (char '\n')
  let cs ← many do
    notClosing '\''
    satisfying fun c => isPrintable c ∨ c = '\n'
  let ending ← closing '\''
  return String.ofList (cs ++ ending)

def stringValue : TextReader String := do
  match (← get).take 3 with
  | ['"', '"', '"'] => multilineBasicString
  | ['\'', '\'', '\''] => multilineLiteralString
  | '\'' :: _ => literalString
  | _ => basicString

/-! ## Keys -/

def simpleKey : TextReader String := do
  match ← peek with
  | some '"' => basicString
  | some '\'' => literalString
  | _ =>
    let cs ← takeWhile isBareKey
    if cs.isEmpty then failure else return String.ofList cs

/-- Fewer keys than this may be joined by dots. -/
def keyLimit : Nat := 80

/-- Keys with dots between them: those before the last one, and the last one. -/
def dottedKey : TextReader (List String × String) := do
  blanks
  let first ← simpleKey
  blanks
  let others ← many do
    char '.'
    blanks
    let key ← simpleKey
    blanks
    return key
  let keys := first :: others
  if keys.length < keyLimit then return (keys.dropLast, keys.getLastD first) else failure

/-! ## Dates and times -/

/-- Exactly `n` decimal digits whose value is in the range. -/
def digits (n low high : Nat) : TextReader Nat := fun cs =>
  let ds := cs.take n
  let value := ds.foldl (fun v d => 10 * v + (d.toNat - '0'.toNat)) 0
  if ds.length = n ∧ ds.all Char.isDigit ∧ low ≤ value ∧ value ≤ high then some (value, cs.drop n)
  else none

def daysInMonth (year month : Nat) : Nat :=
  if month = 2 then
    if year % 4 = 0 ∧ (year % 100 ≠ 0 ∨ year % 400 = 0) then 29 else 28
  else if month ∈ [4, 6, 9, 11] then 30
  else 31

def date : TextReader Unit := do
  let year ← digits 4 0 9999
  char '-'
  let month ← digits 2 1 12
  char '-'
  let _ ← digits 2 1 (daysInMonth year month)

def time : TextReader Unit := do
  let _ ← digits 2 0 23
  char ':'
  let _ ← digits 2 0 59
  char ':'
  let _ ← digits 2 0 60
  let _ ← optional do
    char '.'
    let _ ← satisfying Char.isDigit
    skipWhile Char.isDigit

def timeOffset : TextReader Unit := do
  let sign ← satisfying fun c => c ∈ ['Z', 'z', '+', '-']
  if sign = '+' ∨ sign = '-' then
    let _ ← digits 2 0 23
    char ':'
    let _ ← digits 2 0 59

def moment : TextReader Unit :=
  (do
    date
    let _ ← optional do
      let _ ← satisfying fun c => c ∈ ['T', 't', ' ']
      time
      let _ ← optional timeOffset) <|> time

/-! ## Numbers -/

/-- Digits after the first one, between which single underscores may stand. -/
def moreDigits (isDigit : Char → Bool) : TextReader (List Char) :=
  many ((do char '_'; satisfying isDigit) <|> satisfying isDigit)

def digitRun (isDigit : Char → Bool) : TextReader (List Char) := do
  let d ← satisfying isDigit
  return d :: (← moreDigits isDigit)

def sign : TextReader Bool := do
  match ← peek with
  | some '-' =>
    char '-'
    return true
  | some '+' =>
    char '+'
    return false
  | _ => return false

/-- Decimal digits without a leading zero. -/
def decimalDigits : TextReader (List Char) := do
  let d ← satisfying Char.isDigit
  if d = '0' then return [d] else return d :: (← moreDigits Char.isDigit)

def valueOfDigits (base : Nat) (ds : List Char) : Nat :=
  ds.foldl (fun n d => base * n + (Bytes.hexValue? d).getD 0) 0

def isOctal (c : Char) : Bool := '0' ≤ c ∧ c ≤ '7'

def isBinary (c : Char) : Bool := c = '0' ∨ c = '1'

def isHexadecimal (c : Char) : Bool := (Bytes.hexValue? c).isSome

/-- The integer if it is one of 64 bits. -/
def integerInRange (n : Int) : TextReader Int :=
  if Int64.minValue.toInt ≤ n ∧ n ≤ Int64.maxValue.toInt then return n else failure

def integer : TextReader Int := do
  match (← get).take 2 with
  | ['0', 'x'] =>
    keyword ['0', 'x']
    integerInRange (valueOfDigits 16 (← digitRun isHexadecimal))
  | ['0', 'o'] =>
    keyword ['0', 'o']
    integerInRange (valueOfDigits 8 (← digitRun isOctal))
  | ['0', 'b'] =>
    keyword ['0', 'b']
    integerInRange (valueOfDigits 2 (← digitRun isBinary))
  | _ =>
    let negative ← sign
    let n : Int := valueOfDigits 10 (← decimalDigits)
    integerInRange (if negative then -n else n)

/-- Whether `digits` times ten to the `exponent` rounds to a finite number of double precision. -/
def isFinite (digits : Nat) (exponent : Int) : Bool :=
  let size := (Nat.toDigits 10 digits).length
  if digits = 0 ∨ exponent + size ≤ 308 then true
  else if 309 < exponent + size then false
  else
    let limit := Nat.pow 2 1024 - Nat.pow 2 970
    if 0 ≤ exponent then digits * Nat.pow 10 exponent.toNat < limit
    else digits < limit * Nat.pow 10 (-exponent).toNat

/-- A number with a fraction or an exponent. One too large must be negative. -/
def decimalFloat : TextReader Unit := do
  let negative ← sign
  let whole ← decimalDigits
  let fraction ← optional do
    char '.'
    digitRun Char.isDigit
  let exponent ← optional do
    let _ ← satisfying fun c => c = 'e' ∨ c = 'E'
    let down ← sign
    let n : Int := valueOfDigits 10 (← digitRun Char.isDigit)
    return if down then -n else n
  if fraction.isNone ∧ exponent.isNone then failure
  let places := fraction.getD []
  let finite := isFinite (valueOfDigits 10 (whole ++ places)) (exponent.getD 0 - places.length)
  if negative ∨ finite then return () else failure

def specialFloat : TextReader Unit := do
  let _ ← sign
  keyword ['i', 'n', 'f'] <|> keyword ['n', 'a', 'n']

def boolean : TextReader Bool :=
  (do keyword "true".toList; return true) <|> (do keyword "false".toList; return false)

/-- The text a reader has read. -/
def literal (r : TextReader Unit) : TextReader String := do
  let before ← get
  r
  let after ← get
  return String.ofList (before.take (before.length - after.length))

/-- A value that holds no other values. -/
def scalar : TextReader Value := do
  match ← peek with
  | some '"' => return .string (← stringValue)
  | some '\'' => return .string (← stringValue)
  | some 't' => return .boolean (← boolean)
  | some 'f' => return .boolean (← boolean)
  | _ =>
    (do return .moment (← literal moment)) <|>
      (do return .float (← literal (decimalFloat <|> specialFloat))) <|>
      (do return .integer (← integer))

end WasmBundle.Toml
