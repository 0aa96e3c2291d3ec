import WasmBundle.Shell.Tool.Actions.Layout

/-!
# Values of programs of actions

A value is a number or a text. One that came from outside is a text that counts as a number if it
looks like one, and what was never set is both nothing and zero.
-/

namespace WasmBundle.Shell.Actions

inductive Value where
  | unset
  | number (x : Float)
  | text (s : String)
  /-- A text from outside. -/
  | input (s : String)
  deriving Inhabited, Repr

inductive Key where
  | whole (n : Int)
  | text (s : String)
  deriving DecidableEq, Repr

def Key.shown : Key → String
  | .whole n => toString n
  | .text s => s

namespace Value

def ofBool (b : Bool) : Value := .number (if b then 1 else 0)

def ofNat (n : Nat) : Value := .number n.toFloat

def ofInt (n : Int) : Value := .number (Float.ofInt n)

def leadingNumber (s : String) : Float :=
  match Decimal.literal? s.toList with
  | some (negative, size, _) => Decimal.floatOf negative size
  | none => 0

/-- The number that a text looks like, with blanks around it. -/
def apparentNumber? (s : String) : Option Float := do
  let cs := (s.toList.dropWhile Numeral.isBlank).reverse.dropWhile Numeral.isBlank
  let first ← cs.getLast?
  let last ← cs.head?
  guard (first.isDigit || first = '+' || first = '-' || first = '.')
  guard (last.isDigit || last = '.')
  match Decimal.literal? cs.reverse with
  | some (negative, size, []) =>
    if Decimal.isOutOfRange size then none else some (Decimal.floatOf negative size)
  | _ => none

def toFloat : Value → Float
  | .unset => 0
  | .number x => x
  | .text s => leadingNumber s
  | .input s => leadingNumber s

/-- The number of a value that is one; a text is none. -/
def apparent? : Value → Option Float
  | .unset => some 0
  | .number x => some x
  | .text _ => none
  | .input s => apparentNumber? s

def whole? (x : Float) : Option Int :=
  match Layout.truncated? x with
  | some n => if Float.ofInt n == x then some n else none
  | none => none

/-- A number as a text: in a format, unless it is whole. -/
def shownNumber (format : String) (x : Float) : String :=
  match whole? x with
  | some n =>
    if -Nat.pow 2 63 ≤ n ∧ n ≤ Nat.pow 2 64 then toString (min n (Nat.pow 2 64 - 1))
    else Layout.ofNumber format x
  | none => Layout.ofNumber format x

/-- A value as a text; a format for numbers is given. -/
def toText (format : String) : Value → String
  | .unset => ""
  | .number x => shownNumber format x
  | .text s => s
  | .input s => s

def toKey (format : String) : Value → Key
  | .number x =>
    match whole? x with
    | some n =>
      if -Nat.pow 2 63 < n ∧ n < Nat.pow 2 63 then .whole n else .text (Layout.ofNumber format x)
    | none => .text (Layout.ofNumber format x)
  | v => .text (v.toText format)

def isTrue : Value → Bool
  | .unset => false
  | .number x => x != 0
  | .text s => !s.isEmpty
  | .input s =>
    match apparentNumber? s with
    | some x => x != 0
    | none => !s.isEmpty

def compareNumbers (x y : Float) : Ordering :=
  if x < y then .lt else if y < x then .gt else .eq

def compareTexts (s t : String) : Ordering :=
  if s < t then .lt else if t < s then .gt else .eq

/-- Values are compared as numbers if both are, and else as texts. -/
def order (format : String) (a b : Value) : Ordering :=
  match a.apparent?, b.apparent? with
  | some x, some y => compareNumbers x y
  | _, _ => compareTexts (a.toText format) (b.toText format)

end Value

inductive LayoutFault where
  | tooFew
  /-- A directive of a number that means nothing. -/
  | improper (number : Nat)
  deriving DecidableEq, Repr

def LayoutFault.message : LayoutFault → String
  | .tooFew => "not enough arguments passed to"
  | .improper n => "improper conversion(number " ++ toString n ++ ") in"

namespace Value

/-- The size in a directive; one that is asked for takes a value. -/
def sizeFor (size : Option Format.Size) (values : List Value) :
    Except LayoutFault (Option Int × List Value) :=
  match size with
  | none => .ok (none, values)
  | some (.given n) => .ok (some n, values)
  | some .asked =>
    match values with
    | [] => .error .tooFew
    | v :: rest => .ok (some (Layout.signedOf v.toFloat), rest)

/-- A value as the character it stands for: that of its number, or the first one of its text. -/
def asChar (s : Layout.Shape) (v : Value) : String :=
  let ofCode := fun (x : Float) => Layout.ofChar s (Char.ofNat (Layout.unsignedOf x % 256))
  let ofText := fun (t : String) => Layout.ofChar s ((t.toList.head?).getD (Char.ofNat 0))
  match v with
  | .number x => ofCode x
  | .text t => ofText t
  | .unset => ofText ""
  | .input t =>
    match apparentNumber? t with
    | some x => ofCode x
    | none => ofText t

/-- A value as a directive lays it out; none if its letter means nothing. -/
def laidOut? (format : String) (s : Layout.Shape) (isSized : Bool) (v : Value) : Option String :=
  let letter := s.directive.letter
  if letter = 'c' then some (v.asChar s)
  else if letter = 's' then
    if isSized then none else some (Layout.ofText s (v.toText format))
  else if ['d', 'i', 'o', 'u', 'x', 'X'].contains letter then some (Layout.ofFloat s v.toFloat)
  else if ['e', 'E', 'f', 'g', 'G'].contains letter then
    if isSized then none else some (Layout.ofFloat s v.toFloat)
  else none

/-- Parts of a format with values: the texts up to where something is wrong, the last one first. -/
def layOutFrom (format : String) :
    List Layout.Part → Nat → List Value → List String → List String × Option LayoutFault
  | [], _, _, done => (done, none)
  | .char c :: rest, n, values, done =>
    layOutFrom format rest n values (String.ofList [c] :: done)
  | .directive d isSized :: rest, n, values, done =>
    match sizeFor d.width values with
    | .error e => (done, some e)
    | .ok (width, values) =>
      match sizeFor d.precision values with
      | .error e => (done, some e)
      | .ok (precision, values) =>
        match values with
        | [] => (done, some .tooFew)
        | v :: others =>
          match v.laidOut? format (Layout.shapeOf d width precision) isSized with
          | some t => layOutFrom format rest (n + 1) others (t :: done)
          | none => (done, some (.improper n))

/-- A format with values, up to where something is wrong with it. -/
def layOut (numberFormat format : String) (values : List Value) : String × Option LayoutFault :=
  let (texts, fault?) := layOutFrom numberFormat (Layout.partsOf format) 1 values []
  (String.join texts.reverse, fault?)

end Value

end WasmBundle.Shell.Actions
