import WasmBundle.Shell.Decimal
import WasmBundle.Shell.Format
import WasmBundle.Shell.Tool.Lines
import WasmBundle.Shell.Tool.Quoting

/-!
# Showing bytes

The tool that shows its input line by line as numbers or characters, each line behind its place. A
line that repeats the one before is left out, under a star. The units of a line are shown in a
style: as characters, as their names, as whole numbers in a base, or as numbers with a fraction.
-/

namespace WasmBundle.Shell.Dump

inductive Kind where
  | named
  | character
  | octal
  | unsigned
  | signed
  | hexadecimal
  | real
  deriving DecidableEq, Repr

structure Style where
  kind : Kind
  /-- How many bytes a unit has. -/
  size : Nat
  /-- Whether the characters of a line follow it. -/
  showsText : Bool := false
  deriving DecidableEq, Repr

/-- The number that bytes are, the low one first. -/
def natural : List UInt8 → Nat
  | [] => 0
  | b :: rest => b.toNat + 256 * natural rest

/-- The number that bytes are where the highest bit is a sign. -/
def signed (bytes : List UInt8) : Int :=
  let n := natural bytes
  let whole := Nat.pow 256 bytes.length
  if 2 * n < whole then n else (n : Int) - whole

def inBase (base width n : Nat) : String :=
  Format.padded false '0' width (String.ofList (Nat.toDigits base n))

def characterText (b : UInt8) : String :=
  let c := Char.ofNat b.toNat
  if b = 0 then "\\0"
  else if Tool.isPrintable c then String.ofList [c]
  else if 7 ≤ b ∧ b ≤ 13 then String.ofList (Tool.escape c)
  else inBase 8 3 b.toNat

def controlNames : List String :=
  ["nul", "soh", "stx", "etx", "eot", "enq", "ack", "bel", "bs", "ht", "nl", "vt", "ff", "cr", "so",
    "si", "dle", "dc1", "dc2", "dc3", "dc4", "nak", "syn", "etb", "can", "em", "sub", "esc", "fs",
    "gs", "rs", "us", "sp"]

/-- The name of a byte, without its highest bit. -/
def nameText (b : UInt8) : String :=
  let n := b.toNat % 128
  if n = 127 then "del"
  else ((controlNames[n]?)).getD (String.ofList [Char.ofNat n])

/-- The shortest text, with at least so many digits, that a reading takes for the number. -/
def shortest (r : Decimal.Ratio) (agrees : Float → Bool) : Nat → Nat → String
  | 0, digits => Decimal.general r digits false false
  | more + 1, digits =>
    let text := Decimal.general r digits false false
    let isSame :=
      match Decimal.literal? text.toList with
      | some (_, l, _) => agrees (Decimal.floatOf r.negative l)
      | none => false
    if isSame then text else shortest r agrees more (digits + 1)

/-- A number with a fraction, in the digits that are needed to tell it from others of its kind. -/
def realText (bytes : List UInt8) : String :=
  let bits := natural bytes
  let isSingle := bytes.length == 4
  let single := Float32.ofBits (UInt32.ofNat bits)
  let x := if isSingle then single.toFloat else Float.ofBits (UInt64.ofNat bits)
  let least : Float := if isSingle then (1 : Float).scaleB (-126) else Decimal.leastNormal
  let digits := if x.abs < least then 1 else if isSingle then 6 else 15
  let agrees := fun (y : Float) => if isSingle then y.toFloat32 == single else y == x
  let isNegative := bits / Nat.pow 2 (8 * bytes.length - 1) == 1
  let text :=
    match Decimal.ofFloat x with
    | .finite r => shortest r agrees (if isSingle then 9 - digits else 17 - digits) digits
    | .infinite _ => "inf"
    | .none => "nan"
  if isNegative then "-" ++ text else text

/-- How many digits the greatest number of so many bytes has. -/
def digitCount (base size : Nat) : Nat := (Nat.toDigits base (Nat.pow 256 size - 1)).length

namespace Style

def width (s : Style) : Nat :=
  match s.kind with
  | .named => 3
  | .character => 3
  | .octal => digitCount 8 s.size
  | .unsigned => digitCount 10 s.size
  | .signed => (toString (Nat.pow 256 s.size / 2)).length + 1
  | .hexadecimal => digitCount 16 s.size
  | .real => if s.size = 4 then 15 else 24

def text (s : Style) (unit : List UInt8) : String :=
  match s.kind with
  | .named => nameText (unit.headD 0)
  | .character => characterText (unit.headD 0)
  | .octal => inBase 8 s.width (natural unit)
  | .unsigned => toString (natural unit)
  | .signed => toString (signed unit)
  | .hexadecimal => inBase 16 s.width (natural unit)
  | .real => realText unit

end Style

inductive TypeFault where
  | letter (c : Char)
  | size (kind : Kind) (n : Nat)
  deriving DecidableEq, Repr

def TypeFault.message (text : String) : TypeFault → String
  | .letter c =>
    "invalid character " ++ quoted (String.ofList [c]) ++ " in type string " ++
      Tool.quotedText text
  | .size kind n =>
    "invalid type string " ++ Tool.quotedText text ++ ";\nthis system doesn" ++
      String.ofList [apostrophe] ++ "t provide a " ++ toString n ++ "-byte " ++
      (if kind = .real then "floating point" else "integral") ++ " type"

def kindOf? (c : Char) : Option Kind :=
  [('a', .named), ('c', .character), ('o', .octal), ('u', .unsigned), ('d', .signed),
    ('x', .hexadecimal), ('f', .real)].lookup c

/-- The sizes that units of a kind can have, the usual one first. -/
def Kind.sizes : Kind → List Nat
  | .named => [1]
  | .character => [1]
  | .real => [8, 4]
  | _ => [4, 1, 2, 8]

def Kind.sizeNames : Kind → List (Char × Nat)
  | .named => []
  | .character => []
  | .real => [('F', 4), ('D', 8)]
  | _ => [('C', 1), ('S', 2), ('I', 4), ('L', 8)]

/-- The size behind the letter of a kind, and what follows it. -/
def sizeAt (kind : Kind) (cs : List Char) : Except TypeFault (Nat × List Char) :=
  let usual := kind.sizes.headD 1
  match cs with
  | [] => .ok (usual, [])
  | c :: rest =>
    match kind.sizeNames.lookup c with
    | some n => .ok (n, rest)
    | none =>
      if c.isDigit ∧ usual ≠ 1 then
        let (n, left) := Numeral.leading 10 cs
        if kind.sizes.contains n then .ok (n, left) else .error (.size kind n)
      else .ok (usual, cs)

def stylesUpTo : Nat → List Char → Except TypeFault (List Style)
  | limit + 1, c :: rest =>
    match kindOf? c with
    | none => .error (.letter c)
    | some kind => do
      let (size, left) ← sizeAt kind rest
      let showsText := left.head? = some 'z'
      let left := if showsText then left.tail else left
      return { kind, size, showsText } :: (← stylesUpTo limit left)
  | _, _ => .ok []

def styles (text : String) : Except TypeFault (List Style) := stylesUpTo text.length text.toList

open Running Tool

inductive Radix where
  | octal
  | decimal
  | hexadecimal
  | hidden
  deriving DecidableEq, Repr

def Radix.ofText? (text : String) : Option Radix :=
  match text.toList.head? with
  | some 'o' => some .octal
  | some 'd' => some .decimal
  | some 'x' => some .hexadecimal
  | some 'n' => some .hidden
  | _ => none

def Radix.place : Radix → Nat → String
  | .octal, n => inBase 8 7 n
  | .decimal, n => inBase 10 7 n
  | .hexadecimal, n => inBase 16 6 n
  | .hidden, _ => ""

def chunks {α : Type} (size : Nat) : Nat → List α → List (List α)
  | 0, _ => []
  | limit + 1, l =>
    if l.isEmpty then [] else l.take size :: chunks size limit (l.drop (max size 1))

structure Layout where
  styles : List Style
  radix : Radix := .octal
  /-- How many bytes a line shows. -/
  lineSize : Nat := 16
  /-- Whether lines that repeat are shown too. -/
  all : Bool := false
  /-- Whether the high bytes of a unit come first. -/
  highFirst : Bool := false

namespace Layout

/-- The room of a line, in which each unit has a blank before it. -/
def room (y : Layout) : Nat :=
  (y.styles.map fun s => (s.width + 1) * (y.lineSize / s.size)).foldl max 0

/-- The units of a line, each with its share of the room that is left. -/
def unitTexts (s : Style) (spare fields : Nat) : Nat → List (List UInt8) → List String
  | left, unit :: rest =>
    let width := spare * left / fields - spare * (left - 1) / fields + s.width
    Format.padded false ' ' width (s.text unit) :: unitTexts s spare fields (left - 1) rest
  | _, [] => []

def shownByte (b : UInt8) : Char :=
  let c := Char.ofNat b.toNat
  if isPrintable c then c else '.'

/-- A line in one of the styles; a unit that is cut off is filled up with zeros. -/
def lineText (y : Layout) (s : Style) (line : List UInt8) : String :=
  let fields := y.lineSize / s.size
  let spare := y.room - s.width * fields
  let units := (chunks s.size line.length line).map fun u =>
    let u := u ++ List.replicate (s.size - u.length) 0
    if y.highFirst then u.reverse else u
  let shown := String.join (unitTexts s spare fields fields units)
  if s.showsText then
    Format.padded true ' ' y.room shown ++ "  >" ++ String.ofList (line.map shownByte) ++ "<"
  else shown

/-- The lines of a dump from a place on, behind a line that may be repeated. -/
def lines (y : Layout) : Nat → Option (List UInt8) → Bool → List (List UInt8) → List String
  | place, _, _, [] => if y.radix = .hidden then [] else [y.radix.place place]
  | place, before, starred, line :: rest =>
    let next := place + line.length
    if !y.all ∧ before = some line ∧ line.length = y.lineSize then
      (if starred then [] else ["*"]) ++ y.lines next before true rest
    else
      let title := y.radix.place place
      let blank := String.ofList (List.replicate title.length ' ')
      (y.styles.zipIdx.map fun (s, n) =>
        (if n = 0 then title else blank) ++ y.lineText s line) ++
        y.lines next (some line) false rest

/-- The least size of lines into which units of all styles fit. -/
def unitSize (y : Layout) : Nat := y.styles.foldl (fun n s => n.lcm s.size) 1

end Layout

/-- The texts of at least so many printable characters that a null character closes, each with its
place. `run` is what stands before, the last character first. -/
def texts (least : Nat) : Nat → List UInt8 → List UInt8 → List (Nat × List UInt8)
  | _, _, [] => []
  | place, run, b :: rest =>
    if isPrintable (Char.ofNat b.toNat) then texts least (place + 1) (b :: run) rest
    else
      let others := texts least (place + 1) [] rest
      if b = 0 ∧ least ≤ run.length then (place - run.length, run.reverse) :: others
      else others

def options : OptionTable where
  flags := ['v', 'a', 'b', 'c', 'd', 'D', 'e', 'f', 'F', 'h', 'H', 'i', 'I', 'l', 'L', 'o', 'B',
    'O', 's', 'x', 'X']
  valued := ['A', 't', 'N', 'j', 'S', 'ε']
  optional := ['w', 'σ']
  long := [("address-radix", 'A'), ("format", 't'), ("read-bytes", 'N'), ("skip-bytes", 'j'),
    ("output-duplicates", 'v'), ("strings", 'σ'), ("width", 'w'), ("endian", 'ε')]

def letterTypes : List (Char × String) :=
  [('a', "a"), ('b', "o1"), ('c', "c"), ('D', "u4"), ('d', "u2"), ('e', "fD"), ('f', "fF"),
    ('F', "fD"), ('H', "x4"), ('X', "x4"), ('i', "dI"), ('I', "dL"), ('L', "dL"), ('l', "dL"),
    ('O', "o4"), ('o', "o2"), ('B', "o2"), ('s', "d2"), ('h', "x2"), ('x', "x2")]

def typeTexts (i : Invocation) : List String :=
  i.options.filterMap fun (c, value) => if c = 't' then some value else letterTypes.lookup c

def units : List Char := 'B' :: Size.countUnits

/-- A count in the base that its beginning tells, with a unit, as the value of an option. -/
def counted (base : Option Nat) (known : List Char) (option : Char) (text : String) :
    Except String Nat :=
  let name := "-" ++ String.ofList [option] ++ " argument " ++ quoted text
  let (negative, cs) := Numeral.sign (text.toList.dropWhile Numeral.isBlank)
  let startsHex : Bool :=
    match cs with
    | '0' :: x :: d :: _ => (x == 'x' || x == 'X') && Numeral.isDigitOf 16 d
    | _ => false
  let usual := if startsHex then 16 else if cs.head? = some '0' then 8 else 10
  let base := base.getD usual
  let cs := if startsHex ∧ base = 16 then cs.drop 2 else cs
  let (n, rest) := Numeral.leading base cs
  let hasDigits := cs.head?.any (Numeral.isDigitOf base)
  let isUnit := !hasDigits && cs.head?.any known.contains
  if negative ∨ !(hasDigits || isUnit) then .error ("invalid " ++ name)
  else
    match Size.factor? known rest with
    | none => .error ("invalid suffix in " ++ name)
    | some k =>
      let size := (if hasDigits then n else 1) * k
      if UInt64.size ≤ size then .error (name ++ " too large") else .ok size

structure Extent where
  skipped : Nat := 0
  limit : Option Nat := none
  /-- The least length of texts that are shown instead of a dump. -/
  least : Option Nat := none

def extent (i : Invocation) : Except String Extent := do
  let value := fun (c : Char) => (i.value? c).mapM (counted none units c)
  let usual := fun (text : String) =>
    if text.isEmpty then .ok 3 else counted none units 'S' text
  return {
    skipped := (← value 'j').getD 0
    limit := ← value 'N'
    least := (← value 'S').or (← (i.value? 'σ').mapM usual) }

/-- The layout that options ask for, with a warning about a width that does not fit. -/
def layout (i : Invocation) (types : List Style) : Except String (Layout × Option String) := do
  let styles := if types.isEmpty then [{ kind := .octal, size := 2 }] else types
  let radixText := (i.value? 'A').getD "o"
  let radix ← match Radix.ofText? radixText with
    | some r => pure r
    | none => throw ("invalid output address radix " ++
        quoted (String.ofList (radixText.toList.take 1)) ++
        "; it must be one character from [doxn]")
  let highFirst ← match i.value? 'ε' with
    | some text =>
      (choice? "--endian" [(["little"], false), (["big"], true)] text).mapError fun e =>
        e ++ "\n" ++ String.ofList ((tryHelp "od").toList.dropLast)
    | none => pure false
  let y : Layout := { styles, radix, all := i.has 'v', highFirst }
  let unit := y.unitSize
  match i.value? 'w' with
  | none => return ({ y with lineSize := if unit < 16 then unit * (16 / unit) else unit }, none)
  | some text =>
    let wanted ← if text.isEmpty then pure 32 else counted (some 10) [] 'w' text
    if wanted ≠ 0 ∧ wanted % unit = 0 then return ({ y with lineSize := wanted }, none)
    else
      return ({ y with lineSize := unit }, some ("warning: invalid width " ++ toString wanted ++
        "; using " ++ toString unit ++ " instead"))

/-- The styles that types name; what is said of those that name none. -/
def allStyles (name : String) : List String → Running (Option (List Style))
  | [] => return some []
  | text :: rest => do
    let first ← match styles text with
      | .ok l => pure (some l)
      | .error e => do
        let _ ← complain name (e.message text)
        pure none
    let others ← allStyles name rest
    match first, others with
    | some l, some more => return some (l ++ more)
    | _, _ => return none

/-- What the inputs that can be read hold, and whether there are any. -/
def gathered (name : String) (most : Nat) :
    List String → Running (Bytes × Bool × Nat)
  | [] => return ([], false, 0)
  | o :: rest => do
    match ← contentUpTo most o with
    | .error e =>
      let status ← complain name (shownPath o ++ ": " ++ e.reason)
      let (b, any, others) ← gathered name most rest
      return (b, any || e == .isDirectory, max status others)
    | .ok b =>
      let (more, _, status) ← gathered name most rest
      return (b ++ more, true, status)

def show? (name : String) (y : Layout) (e : Extent) (operands : List String) : Running Nat := do
  let most := e.skipped + e.limit.getD 0
  let (b, any, status) ← gathered name most (inputs operands)
  if !any then return status
  else if b.length < e.skipped then complain name "cannot skip past end of combined input"
  else
    let rest := b.drop e.skipped
    let shown := (e.limit.map rest.take).getD rest
    match e.least with
    | some least =>
      for (place, run) in texts least e.skipped [] shown do
        let title := if y.radix = .hidden then "" else y.radix.place place ++ " "
        print title
        printBytes (run ++ [10])
      return status
    | none =>
      let l := y.lines e.skipped none false (chunks y.lineSize shown.length shown)
      print (String.join (l.map (· ++ "\n")))
      return status

def dump : Tool :=
  withOptions options 1 fun _ name i => do
    match extent i with
    | .error text => complain name text
    | .ok e =>
      match ← allStyles name (typeTexts i) with
      | none => return 1
      | some l =>
        match layout i l with
        | .error text => complain name text
        | .ok (y, warning) =>
          if e.least.isSome ∧ !l.isEmpty then
            complain name "no type may be specified when dumping strings"
          else
            for text in warning.toList do
              printError (name ++ ": " ++ text ++ "\n")
            show? name y e i.operands

end WasmBundle.Shell.Dump
