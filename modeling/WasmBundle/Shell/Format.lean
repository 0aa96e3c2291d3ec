import WasmBundle.Shell.Decimal

/-!
# Formatted output

A format is text with backslash escapes and directives. Every directive takes the next argument; a
format that takes arguments is used again until none is left.
-/

namespace WasmBundle.Shell.Format

/-- What a letter stands for behind a backslash. -/
def escape? : Char → Option Nat
  | 'a' => some 7
  | 'b' => some 8
  | 'e' => some 27
  | 'f' => some 12
  | 'n' => some 10
  | 'r' => some 13
  | 't' => some 9
  | 'v' => some 11
  | '\\' => some 92
  | _ => none

def isOctal (c : Char) : Bool := '0' ≤ c ∧ c ≤ '7'

/-- The character that an escape stands for, behind its backslash, and how long the escape is. An
escape without meaning leaves the backslash. -/
def escaped (cs : List Char) : Char × Nat :=
  match cs with
  | [] => ('\\', 0)
  | c :: _ =>
    match escape? c with
    | some n => (Char.ofNat n, 1)
    | none =>
      let digits := (cs.take 3).takeWhile isOctal
      if digits.isEmpty then ('\\', 0)
      else (Char.ofNat (Numeral.ofDigits 8 digits % 256), digits.length)

/-- A text with its escapes replaced, and whether `\c` cuts it off. A zero may stand before the
three digits of a character. -/
def unescape : Nat → List Char → List Char × Bool
  | 0, _ => ([], false)
  | _, [] => ([], false)
  | limit + 1, c :: rest =>
    if c ≠ '\\' then
      let (others, cut) := unescape limit rest
      (c :: others, cut)
    else
      match rest with
      | 'c' :: _ => ([], true)
      | _ =>
        let rest :=
          match rest with
          | '0' :: d :: _ => if isOctal d then rest.drop 1 else rest
          | _ => rest
        let (e, n) := escaped rest
        let (others, cut) := unescape limit (rest.drop n)
        (e :: others, cut)

def unescaped (text : String) : List Char × Bool := unescape text.length text.toList

/-- A width or a precision. -/
inductive Size where
  | given (n : Nat)
  /-- The next argument says it. -/
  | asked
  deriving DecidableEq, Repr

structure Directive where
  flags : List Char
  width : Option Size
  precision : Option Size
  letter : Char
  deriving DecidableEq, Repr

inductive Piece where
  | char (c : Char)
  | directive (d : Directive)
  /-- The rest of the format makes no sense. -/
  | broken (text : String)
  deriving DecidableEq, Repr

def flagSigns : List Char := ['#', '-', '+', ' ', '0']

def sizeAt (cs : List Char) : Option Size × List Char :=
  match cs with
  | '*' :: rest => (some .asked, rest)
  | _ =>
    let digits := cs.takeWhile Char.isDigit
    let rest := cs.drop digits.length
    (if digits.isEmpty then none else some (.given (Numeral.ofDigits 10 digits)), rest)

def knownLetters : List Char :=
  ['b', 'c', 's', 'd', 'i', 'o', 'u', 'x', 'X', 'a', 'A', 'e', 'E', 'f', 'F', 'g', 'G']

/-- The directive behind a percent sign, and what follows it. -/
def directive (cs : List Char) : Piece × List Char :=
  let flags := cs.takeWhile flagSigns.contains
  let (width, rest) := sizeAt (cs.drop flags.length)
  let (precision, rest) :=
    match rest with
    | '.' :: r =>
      let (p, left) := sizeAt r
      (some (p.getD (.given 0)), left)
    | _ => (none, rest)
  match rest with
  | [] => (.broken "missing format character", [])
  | c :: after =>
    if knownLetters.contains c then (.directive ⟨flags, width, precision, c⟩, after)
    else
      let written := cs.take (cs.length - after.length)
      (.broken ("%" ++ String.ofList written ++ ": invalid directive"), [])

def piecesUpTo : Nat → List Char → List Piece
  | 0, _ => []
  | _, [] => []
  | limit + 1, c :: rest =>
    match c, rest with
    | '\\', _ =>
      let (e, n) := escaped rest
      .char e :: piecesUpTo limit (rest.drop n)
    | '%', '%' :: after => .char '%' :: piecesUpTo limit after
    | '%', _ =>
      let (p, after) := directive rest
      p :: piecesUpTo limit after
    | _, _ => .char c :: piecesUpTo limit rest

def pieces (format : String) : List Piece := piecesUpTo format.length format.toList

/-- What can be wrong with a number in an argument. -/
inductive Doubt where
  | noNumber
  | incomplete
  | outOfRange
  deriving DecidableEq, Repr

def Doubt.message : Doubt → String
  | .noNumber => "expected numeric value"
  | .incomplete => "not completely converted"
  | .outOfRange => "Numerical result out of range"

structure Warning where
  argument : String
  doubt : Doubt
  deriving DecidableEq, Repr

def Warning.message (w : Warning) : String := w.argument ++ ": " ++ w.doubt.message

/-- A run of a format. -/
structure Printing where
  arguments : List String
  /-- What is printed, the last part first. -/
  printed : List String := []
  warnings : List Warning := []
  failed : Bool := false
  /-- Whether `\c` ended it. -/
  ended : Bool := false
  /-- Why it cannot go on. -/
  fault : Option String := none

abbrev Printer := StateM Printing

def emit (text : String) : Printer Unit := modify fun s => { s with printed := text :: s.printed }

def warn (argument : String) (doubt : Doubt) : Printer Unit :=
  modify fun s => { s with warnings := ⟨argument, doubt⟩ :: s.warnings, failed := true }

/-- The next argument, if there is one. -/
def argument? : Printer (Option String) := do
  match (← get).arguments with
  | [] => return none
  | a :: rest =>
    modify fun s => { s with arguments := rest }
    return some a

def padded (left : Bool) (fill : Char) (width : Nat) (text : String) : String :=
  let padding := List.replicate (width - text.length) fill
  if left then text ++ String.ofList padding else String.ofList padding ++ text

/-- The code of a character that is given behind a quotation mark. -/
def codeOf? (text : String) : Option Nat :=
  match text.toList with
  | c :: rest =>
    if c = '"' ∨ c = apostrophe then some ((rest.head?.map Char.toNat).getD 0) else none
  | [] => none

/-- Warns of what follows a number in an argument. -/
def checkRest (text : String) (rest : List Char) : Printer Unit := do
  if rest.length = text.length ∧ !text.isEmpty then warn text .noNumber
  else if !rest.isEmpty then warn text .incomplete

def outOfRange (text : String) : Printer Unit := warn text .outOfRange

def wordSize : Nat := UInt64.size

/-- The next argument as a number with a sign, in the range of 64 bits. -/
def integer : Printer Int := do
  match ← argument? with
  | none => return 0
  | some text =>
    match codeOf? text with
    | some n => return n
    | none =>
      let (negative, cs) := Numeral.sign (text.toList.dropWhile Numeral.isBlank)
      if cs.head?.any Char.isDigit then
        let (n, rest) := Numeral.leadingAnyBase cs
        let exact : Int := if negative then -(n : Int) else n
        checkRest text rest
        if rest.isEmpty ∧ Numeral.clamp exact ≠ exact then outOfRange text
        return Numeral.clamp exact
      else
        checkRest text text.toList
        return 0

/-- The next argument as a number without a sign. -/
def natural : Printer Nat := do
  match ← argument? with
  | none => return 0
  | some text =>
    match codeOf? text with
    | some n => return n
    | none =>
      let (negative, cs) := Numeral.sign (text.toList.dropWhile Numeral.isBlank)
      if cs.head?.any Char.isDigit then
        let (n, rest) := Numeral.leadingAnyBase cs
        checkRest text rest
        if wordSize ≤ n then
          if rest.isEmpty then outOfRange text
          return wordSize - 1
        else return if negative then (wordSize - n) % wordSize else n
      else
        checkRest text text.toList
        return 0

def float : Printer Float := do
  match ← argument? with
  | none => return 0
  | some text =>
    match codeOf? text with
    | some n => return n.toFloat
    | none =>
      match Decimal.literal? text.toList with
      | some (negative, l, rest) =>
        checkRest text rest
        if rest.isEmpty ∧ Decimal.isOutOfRange l then outOfRange text
        return Decimal.floatOf negative l
      | none =>
        checkRest text text.toList
        return 0

/-- A width or a precision, which may be negative when an argument gives it. -/
def sizeOf : Option Size → Printer (Option Int)
  | none => return none
  | some (.given n) => return some n
  | some .asked => do return some (← integer)

/-- Digits with a sign before them, filled up to a precision and a width. -/
def numberText (flags : List Char) (left : Bool) (width : Nat) (precision : Option Nat)
    (sign digits : String) : String :=
  let digits := padded false '0' (precision.getD 1) digits
  if flags.contains '0' ∧ !left ∧ precision.isNone then
    sign ++ padded false '0' (width - sign.length) digits
  else padded left ' ' width (sign ++ digits)

def signText (flags : List Char) (negative : Bool) : String :=
  if negative then "-"
  else if flags.contains '+' then "+"
  else if flags.contains ' ' then " "
  else ""

def inBase (base n : Nat) : String := if n = 0 then "" else String.ofList (Nat.toDigits base n)

/-- The text of a number without a sign. -/
def naturalText (d : Directive) (left : Bool) (width : Nat) (precision : Option Nat) (n : Nat) :
    String :=
  let alternate := d.flags.contains '#'
  match d.letter with
  | 'o' =>
    let digits := inBase 8 n
    let digits := if alternate ∧ precision.getD 1 ≤ digits.length then "0" ++ digits else digits
    numberText d.flags left width precision "" digits
  | 'u' => numberText d.flags left width precision "" (inBase 10 n)
  | 'X' =>
    let sign := if alternate ∧ n ≠ 0 then "0X" else ""
    numberText d.flags left width precision sign (inBase 16 n).toUpper
  | _ =>
    let sign := if alternate ∧ n ≠ 0 then "0x" else ""
    numberText d.flags left width precision sign (inBase 16 n)

def floatText (d : Directive) (left : Bool) (width : Nat) (precision : Option Nat) (x : Float) :
    String :=
  match Decimal.ofFloat x with
  | .finite r =>
    let keepsPoint := d.flags.contains '#'
    let sign := signText d.flags r.negative
    if d.letter = 'a' then
      numberText d.flags left width none (sign ++ "0x") (Decimal.hexadecimal x precision keepsPoint)
    else if d.letter = 'A' then
      let digits := (Decimal.hexadecimal x precision keepsPoint).toUpper
      numberText d.flags left width none (sign ++ "0X") digits
    else
      let digits := Decimal.shown r d.letter (precision.getD 6) keepsPoint
      numberText d.flags left width none sign digits
  | .infinite negative =>
    let text := if d.letter.isUpper then "INF" else "inf"
    padded left ' ' width (signText d.flags negative ++ text)
  | .none => padded left ' ' width (if d.letter.isUpper then "NAN" else "nan")

/-- Prints the next argument as a directive says. -/
def follow (d : Directive) : Printer Unit := do
  let width ← sizeOf d.width
  let precision ← sizeOf d.precision
  let left := d.flags.contains '-' || width.any (· < 0)
  let width := (width.getD 0).natAbs
  let precision := precision.bind fun p => if p < 0 then none else some p.toNat
  let cut := fun (text : String) =>
    match precision with
    | some n => String.ofList (text.toList.take n)
    | none => text
  match d.letter with
  | 's' => emit (padded left ' ' width (cut ((← argument?).getD "")))
  | 'c' =>
    let c := (((← argument?).getD "").toList.head?).getD (Char.ofNat 0)
    emit (padded left ' ' width (String.ofList [c]))
  | 'b' =>
    let (text, ends) := unescaped ((← argument?).getD "")
    emit (padded left ' ' width (cut (String.ofList text)))
    modify fun s => { s with ended := ends }
  | 'd' =>
    let n ← integer
    emit (numberText d.flags left width precision (signText d.flags (n < 0)) (inBase 10 n.natAbs))
  | 'i' =>
    let n ← integer
    emit (numberText d.flags left width precision (signText d.flags (n < 0)) (inBase 10 n.natAbs))
  | 'o' => emit (naturalText d left width precision (← natural))
  | 'u' => emit (naturalText d left width precision (← natural))
  | 'x' => emit (naturalText d left width precision (← natural))
  | 'X' => emit (naturalText d left width precision (← natural))
  | _ => emit (floatText d left width precision (← float))

def useOnce : List Piece → Printer Unit
  | [] => return ()
  | p :: rest => do
    match p with
    | .char c => emit (String.ofList [c])
    | .directive d => follow d
    | .broken text => modify fun s => { s with fault := some text, ended := true }
    if (← get).ended then return () else useOnce rest

/-- Uses a format until no argument is left, or until it takes none. -/
def useAll (format : List Piece) : Nat → Printer Unit
  | 0 => return ()
  | limit + 1 => do
    let before := (← get).arguments.length
    useOnce format
    let s ← get
    if s.ended ∨ s.arguments.isEmpty ∨ s.arguments.length = before then return ()
    else useAll format limit

def run (format : String) (arguments : List String) : Printing :=
  ((useAll (pieces format) (arguments.length + 1)).run { arguments }).2

def Printing.text (s : Printing) : String := String.join s.printed.reverse

/-- What `echo` prints: escapes are replaced, `-n` leaves the line open and `\c` cuts off the
rest. -/
def echoed (arguments : List String) : String :=
  let (isOpen, words) :=
    match arguments with
    | "-n" :: rest => (true, rest)
    | _ => (false, arguments)
  let (text, cut) := unescaped (" ".intercalate words)
  String.ofList text ++ (if isOpen ∨ cut then "" else "\n")

end WasmBundle.Shell.Format
