import WasmBundle.Shell.Dates
import WasmBundle.Shell.Tool.Actions.Traffic

/-!
# Functions that come along

What programs of actions can call without defining it, given the values of its arguments.
-/

namespace WasmBundle.Shell.Actions.Functions

open Machine

/-- A number of units that are a power of two, as a floating-point number; what does not fit is cut
off. -/
def floatOfUnits (n : Nat) (twos : Int) : Float :=
  let excess := n.log2 - 52
  (n / Nat.pow 2 excess).toFloat.scaleB (twos + excess)

def unitsOf (x : Float) : Nat × Int :=
  let bits := x.toBits.toNat
  let biased := bits / Nat.pow 2 52 % 2048
  let fraction := bits % Nat.pow 2 52
  if biased = 0 then (fraction, -1074) else (fraction + Nat.pow 2 52, (biased : Int) - 1075)

/-- What is left when a number is divided by another one a whole number of times; it has the sign of
the first one. -/
def remainder (x y : Float) : Float :=
  if x.isNaN || y.isNaN || x.isInf || y == 0 then 0 / 0
  else if y.isInf then x
  else
    let (a, i) := unitsOf x
    let (b, j) := unitsOf y
    let unit := min i j
    let left := a * Nat.pow 2 (i - unit).toNat % (b * Nat.pow 2 (j - unit).toNat)
    let size := floatOfUnits left unit
    if x < 0 then -size else size

def calculate (operation : Operation) (x y : Float) : Float :=
  match operation with
  | .add => x + y
  | .subtract => x - y
  | .multiply => x * y
  | .divide => x / y
  | .remainder => remainder x y
  | .power => Float.pow x y

def truncated (x : Float) : Float := if x < 0 then x.ceil else x.floor

/-- The part of a text from a place on, which counts from one, up to a length. A part that would
start earlier starts with the text. -/
def part (text : String) (start : Int) (length : Option Int) : String :=
  let cs := text.toList
  let first := max 1 start
  let rest := cs.drop (first - 1).toNat
  match length with
  | none => String.ofList rest
  | some n =>
    let n := if start ≤ 0 then n - start else n
    String.ofList (rest.take n.toNat)

/-- Where a text is found in another one, counted from one; zero if it is not. -/
def placeOf (text part : List Char) : Nat :=
  if part.isEmpty then if text.isEmpty then 0 else 1
  else
    let rec go (n : Nat) : List Char → Nat
      | [] => 0
      | c :: rest => if part.isPrefixOf (c :: rest) then n else go (n + 1) rest
    go 1 text

/-- Where a text matches first, counted from one, and how long that is. -/
def matchIn (r : Regex) (text : String) : Work Value := do
  let (start, length) : Int × Int :=
    match Matching.find? r text.toList.toArray 0 with
    | some (first, last) => (first + 1, last - first)
    | none => (0, -1)
  setValue "RSTART" (.ofInt start)
  setValue "RLENGTH" (.ofInt length)
  return .ofInt start

def splitInto (table : Nat) (s : Separator) (text : String) : Work Value := do
  let l := (s.parts text).map Value.input
  onTable table fun _ => ((), Table.ofList l)
  return .ofNat l.length

def sprintf (who format : String) (values : List Value) : Work String := do
  match Value.layOut (← get).format format values with
  | (text, none) => return text
  | (_, some e) => fault (e.message ++ " " ++ who ++ "(\"" ++ format ++ "\")")

def now : Work Int := do return Int.fdiv (← perform Running.disk).clock 1000000000

/-- The seconds up to a date given as numbers: year, month, day, hour, minute and second. -/
def secondsOf (text : String) : Int :=
  let numbers := (Separator.blanks.parts text).filterMap (Numeral.whole? false)
  match numbers with
  | year :: month :: day :: hour :: minute :: second :: _ =>
    let first : Moment := Calendar.addMonths { year := year } (month - 1)
    Calendar.seconds first + (day - 1) * 86400 + hour * 3600 + minute * 60 + second
  | _ => -1

def call (r : Runner) (name : String) (arguments : List Value) : Work Value := do
  let number := fun (i : Nat) => ((arguments[i]?).getD .unset).toFloat
  let text := fun (i : Nat) => textOf ((arguments[i]?).getD .unset)
  let whole := fun (i : Nat) => Layout.signedOf (number i)
  match name with
  | "index" => return .ofNat (placeOf (← text 0).toList (← text 1).toList)
  | "substr" =>
    let length := if arguments.length < 3 then none else some (whole 2)
    return .text (part (← text 0) (whole 1) length)
  | "sprintf" => return .text (← sprintf "sprintf" (← text 0) (arguments.drop 1))
  | "toupper" => return .text (← text 0).toUpper
  | "tolower" => return .text (← text 0).toLower
  | "sin" => return .number (number 0).sin
  | "cos" => return .number (number 0).cos
  | "atan2" => return .number (Float.atan2 (number 0) (number 1))
  | "exp" => return .number (number 0).exp
  | "log" => return .number (number 0).log
  | "int" => return .number (truncated (number 0))
  | "sqrt" => return .number (number 0).sqrt
  | "rand" =>
    let m ← get
    let next := (m.chance * 6364136223846793005 + 1442695040888963407) % Nat.pow 2 64
    set { m with chance := next }
    return .number (next.toFloat / 18446744073709551616)
  | "srand" =>
    let m ← get
    let seed ← if arguments.isEmpty then pure (Value.ofInt (← now)) else pure (.number (number 0))
    set { m with seed := seed, chance := Layout.unsignedOf seed.toFloat }
    return m.seed
  | "close" => return .ofInt (← closeNamed r (← text 0))
  | "system" =>
    flushAll
    let command ← text 0
    return .ofNat (← perform (runCommand r command))
  | "fflush" =>
    if arguments.isEmpty then
      flushAll
      return .number 0
    else return .ofInt (if ← flushNamed (← text 0) then 0 else -1)
  | "systime" => return .ofInt (← now)
  | "mktime" => return .ofInt (secondsOf (← text 0))
  | "strftime" =>
    let format ← if arguments.isEmpty then pure "%c" else text 0
    let time ← if arguments.length < 2 then now else pure (whole 1)
    return .text (Calendar.shownAs format (time * 1000000000))
  | _ => return .unset

end WasmBundle.Shell.Actions.Functions
