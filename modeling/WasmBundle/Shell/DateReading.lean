import WasmBundle.Shell.Dates

/-!
# Reading dates

Dates as people write them: days, times of day, zones, and steps from there such as `2 days ago`, in
any order. Times are counts of nanoseconds.
-/

namespace WasmBundle.Shell.Calendar

structure Span where
  months : Int := 0
  days : Int := 0
  seconds : Int := 0
  deriving DecidableEq, Repr

def Span.add (a b : Span) : Span :=
  { months := a.months + b.months, days := a.days + b.days, seconds := a.seconds + b.seconds }

def Span.times (n : Int) (a : Span) : Span :=
  { months := n * a.months, days := n * a.days, seconds := n * a.seconds }

inductive DateToken where
  /-- A number: its sign if it has one, its value, how many digits it has and what follows its
  point, in nanoseconds. -/
  | number (minus : Option Bool) (n digits : Nat) (fraction : Option Nat)
  | sign (c : Char)
  /-- Before or after noon. -/
  | half (afternoon : Bool)
  | month (n : Nat)
  | weekday (n : Nat)
  | unit (s : Span)
  /-- A word for a number, such as `next`. -/
  | ordinal (n : Int)
  /-- A word for so many days from now. -/
  | shift (days : Int)
  | ago
  /-- A zone by its distance in seconds. -/
  | zone (seconds : Int)
  /-- The sign between a date and a time. -/
  | timeMark
  | summerTime
  | unknown
  deriving DecidableEq, Repr

def billion : Nat := 1000000000

/-- The zones, each with its distance in minutes. -/
def zones : List (String × Int) :=
  [("gmt", 0), ("ut", 0), ("utc", 0), ("wet", 0), ("west", 60), ("bst", 60), ("art", -180),
    ("brt", -180), ("brst", -120), ("nst", -210), ("ndt", -150), ("ast", -240), ("adt", -180),
    ("clt", -240), ("clst", -180), ("est", -300), ("edt", -240), ("cst", -360), ("cdt", -300),
    ("mst", -420), ("mdt", -360), ("pst", -480), ("pdt", -420), ("akst", -540), ("akdt", -480),
    ("hst", -600), ("hast", -600), ("hadt", -540), ("sst", -720), ("wat", 60), ("cet", 60),
    ("cest", 120), ("met", 60), ("mez", 60), ("mest", 120), ("mesz", 120), ("eet", 120),
    ("eest", 180), ("cat", 120), ("sast", 120), ("eat", 180), ("msk", 180), ("msd", 240),
    ("ist", 330), ("sgt", 480), ("kst", 540), ("jst", 540), ("gst", 600), ("nzst", 720),
    ("nzdt", 780)]

/-- The distance in hours of the zone that a letter stands for. -/
def letterZone? (c : Char) : Option Int :=
  let place := fun (l : String) => l.toList.idxOf? c
  if c = 'z' then some 0
  else
    match place "abcdefghiklm", place "nopqrstuvwxy" with
    | some i, _ => some (i + 1)
    | none, some i => some (-(i + 1 : Int))
    | none, none => none

def units : List (String × Span) :=
  [("year", { months := 12 }), ("month", { months := 1 }), ("fortnight", { days := 14 }),
    ("week", { days := 7 }), ("day", { days := 1 }), ("hour", { seconds := 3600 }),
    ("minute", { seconds := 60 }), ("min", { seconds := 60 }), ("second", { seconds := 1 }),
    ("sec", { seconds := 1 })]

def dateWords : List (String × DateToken) :=
  [("am", .half false), ("a.m.", .half false), ("pm", .half true), ("p.m.", .half true),
    ("sept", .month 9), ("tues", .weekday 2), ("wednes", .weekday 3), ("thur", .weekday 4),
    ("thurs", .weekday 4), ("dst", .summerTime)]

def stepWords : List (String × DateToken) :=
  [("tomorrow", .shift 1), ("yesterday", .shift (-1)), ("today", .shift 0), ("now", .shift 0),
    ("last", .ordinal (-1)), ("this", .ordinal 0), ("next", .ordinal 1), ("first", .ordinal 1),
    ("third", .ordinal 3), ("fourth", .ordinal 4), ("fifth", .ordinal 5), ("sixth", .ordinal 6),
    ("seventh", .ordinal 7), ("eighth", .ordinal 8), ("ninth", .ordinal 9), ("tenth", .ordinal 10),
    ("eleventh", .ordinal 11), ("twelfth", .ordinal 12), ("ago", .ago)]

/-- The position of the name that a word is, in full or cut to three letters. -/
def indexOf? (names : List String) (word : String) : Option Nat :=
  let w := word.toList
  let isCut := w.length = 3 ∨ (w.length = 4 ∧ w.getLast? = some '.')
  names.findIdx? fun n =>
    let l := n.toList.map Char.toLower
    l == w || (isCut && l.take 3 == w.take 3)

def wordToken (w : String) : DateToken :=
  let unit? := fun (w : String) => (units.lookup w).map DateToken.unit
  let zone? := fun (w : String) => (zones.lookup w).map fun m => DateToken.zone (m * 60)
  let singular := if w.toList.getLast? = some 's' then String.ofList w.toList.dropLast else w
  let month? := (indexOf? monthNames w).map fun i => DateToken.month (i + 1)
  let weekday? := (indexOf? dayNames w).map DateToken.weekday
  let letter? :=
    match w.toList with
    | ['t'] => some .timeMark
    | [c] => (letterZone? c).map fun h => DateToken.zone (h * 3600)
    | _ => none
  let found := [dateWords.lookup w, month?, weekday?, zone? w, unit? w, unit? singular,
    stepWords.lookup w, letter?, zone? (String.ofList (w.toList.filter (· ≠ '.')))]
  (found.findSome? id).getD .unknown

/-- The nanoseconds that digits behind a point stand for. -/
def fractionOf (ds : List Char) : Nat :=
  Numeral.ofDigits 10 ((ds ++ List.replicate 9 '0').take 9)

/-- The number at the start of a text, and what follows it. -/
def numberToken (minus : Option Bool) (cs : List Char) : DateToken × List Char :=
  let ds := cs.takeWhile Char.isDigit
  let n := Numeral.ofDigits 10 ds
  match cs.drop ds.length with
  | p :: c :: rest =>
    if (p = '.' ∨ p = ',') ∧ c.isDigit then
      let fraction := (c :: rest).takeWhile Char.isDigit
      (.number minus n ds.length (some (fractionOf fraction)), (c :: rest).drop fraction.length)
    else (.number minus n ds.length none, p :: c :: rest)
  | rest => (.number minus n ds.length none, rest)

/-- What follows a remark in parentheses, which are open to a depth. -/
def behindRemark : Nat → List Char → List Char
  | _, [] => []
  | depth, c :: rest =>
    if c = '(' then behindRemark (depth + 1) rest
    else if c = ')' then if depth ≤ 1 then rest else behindRemark (depth - 1) rest
    else behindRemark depth rest

def dateTokens : Nat → List Char → List DateToken
  | 0, _ => []
  | limit + 1, cs =>
    match cs.dropWhile Numeral.isBlank with
    | [] => []
    | c :: rest =>
      if c.isDigit then
        let (t, after) := numberToken none (c :: rest)
        t :: dateTokens limit after
      else if c = '-' ∨ c = '+' then
        let after := rest.dropWhile Numeral.isBlank
        if after.head?.any Char.isDigit then
          let (t, left) := numberToken (some (c == '-')) after
          t :: dateTokens limit left
        else dateTokens limit after
      else if c.isAlpha then
        let w := (c :: rest).takeWhile fun c => c.isAlpha ∨ c = '.'
        wordToken (String.ofList (w.map Char.toLower)) ::
          dateTokens limit ((c :: rest).drop w.length)
      else if c = '(' then dateTokens limit (behindRemark 0 (c :: rest))
      else .sign c :: dateTokens limit rest

structure Reading where
  /-- The year is none until it is known. -/
  day : Option (Option Int × Int × Int) := none
  days : Nat := 0
  /-- The hour, the minute, the nanoseconds, and whether that is after noon. -/
  time : Option (Nat × Nat × Nat × Option Bool) := none
  times : Nat := 0
  /-- A day of the week, and which one of those to come. -/
  dayOfWeek : Option (Int × Nat) := none
  daysOfWeek : Nat := 0
  zone : Option Int := none
  zones : Nat := 0
  step : Span := {}
  hasStep : Bool := false
  deriving Repr

namespace Reading

def withDay (r : Reading) (year : Option Int) (month day : Int) : Reading :=
  { r with day := some (year, month, day), days := r.days + 1 }

def withTime (r : Reading) (hour minute nano : Nat) (half : Option Bool) : Reading :=
  { r with time := some (hour, minute, nano, half), times := r.times + 1 }

def withWeekday (r : Reading) (ordinal : Int) (n : Nat) : Reading :=
  { r with dayOfWeek := some (ordinal, n), daysOfWeek := r.daysOfWeek + 1 }

def withZone (r : Reading) (seconds : Int) : Reading :=
  { r with zone := some seconds, zones := r.zones + 1 }

def withStep (r : Reading) (s : Span) : Reading :=
  { r with step := r.step.add s, hasStep := true }

end Reading

def fullYear (n digits : Nat) : Int :=
  if digits = 2 then if n < 69 then n + 2000 else n + 1900 else n

def signedNumber (minus : Bool) (n : Nat) : Int := if minus then -(n : Int) else n

/-- The distance of a zone given as a number with a sign, and perhaps minutes behind a colon. -/
def zoneDistance (minus : Bool) (n digits : Nat) (minutes : Option Nat) : Int :=
  let size :=
    match minutes with
    | some m => n * 60 + m
    | none => if digits ≤ 2 then n * 60 else n / 100 * 60 + n % 100
  signedNumber minus size * 60

/-- The distance of a zone at the start of tokens, if there is one, and what follows it. -/
def zoneAt (ts : List DateToken) : Option Int × List DateToken :=
  match ts with
  | .number (some _) _ _ none :: .unit _ :: _ => (none, ts)
  | .number (some minus) n d none :: .sign ':' :: .number none m _ none :: rest =>
    (some (zoneDistance minus n d (some m)), rest)
  | .number (some minus) n d none :: rest => (some (zoneDistance minus n d none), rest)
  | _ => (none, ts)

def timed (r : Reading) (hour minute nano : Nat) (rest : List DateToken) :
    Reading × List DateToken :=
  match rest with
  | .half afternoon :: rest => (r.withTime hour minute nano (some afternoon), rest)
  | _ =>
    match zoneAt rest with
    | (some z, rest) => ((r.withTime hour minute nano none).withZone z, rest)
    | (none, rest) => (r.withTime hour minute nano none, rest)

/-- A step, which a word behind it may turn back. -/
def stepped (r : Reading) (s : Span) (rest : List DateToken) : Reading × List DateToken :=
  match rest with
  | .ago :: rest => (r.withStep (s.times (-1)), rest)
  | _ => (r.withStep s, rest)

/-- A number that stands for itself: the year of a date, a date, or a time of day. -/
def plainNumber (r : Reading) (n digits : Nat) : Reading :=
  match r.day with
  | some (none, month, day) =>
    if !r.hasStep ∧ (0 < r.times ∨ 2 < digits) then
      { r with day := some (some (fullYear n digits), month, day) }
    else withoutYear
  | _ => withoutYear
where
  withoutYear : Reading :=
    if 4 < digits then
      r.withDay (some (fullYear (n / 10000) (digits - 4))) (n / 100 % 100 : Nat) (n % 100 : Nat)
    else if digits ≤ 2 then r.withTime n 0 0 none
    else r.withTime (n / 100) (n % 100) 0 none

/-- The date in numbers between slashes: the year comes first if it has four digits. -/
def slashed (r : Reading) (a b c : Nat × Nat) : Reading :=
  if 4 ≤ a.2 then r.withDay (some (fullYear a.1 a.2)) b.1 c.1
  else r.withDay (some (fullYear c.1 c.2)) a.1 b.1

/-- The part of a date at the start of tokens, added to what has been read, and what follows it. -/
def datePart? (r : Reading) (ts : List DateToken) : Option (Reading × List DateToken) :=
  match ts with
  | .number none y d none :: .number (some true) m _ none :: .number (some true) n _ none ::
      .timeMark :: .number none hour hd none :: rest =>
    let r := r.withDay (some (fullYear y d)) m n
    match rest with
    | .sign ':' :: _ => some (r, .number none hour hd none :: rest)
    | _ =>
      match zoneAt rest with
      | (some z, rest) => some ((r.withTime hour 0 0 none).withZone z, rest)
      | (none, _) => none
  | .number none y d none :: .number (some true) m _ none :: .number (some true) n _ none :: rest =>
    some (r.withDay (some (fullYear y d)) m n, rest)
  | .number none a d none :: .sign '/' :: .number none b _ none :: .sign '/' ::
      .number none c e none :: rest => some (slashed r (a, d) (b, 0) (c, e), rest)
  | .number none m _ none :: .sign '/' :: .number none n _ none :: rest =>
    some (r.withDay none m n, rest)
  | .number none n _ none :: .month m :: .number (some minus) y d none :: rest =>
    some (r.withDay (some (if minus then fullYear y d else -(fullYear y d))) m n, rest)
  | .month m :: .number (some n') n _ none :: .number (some y') y d none :: rest =>
    some (r.withDay (some (if y' then fullYear y d else -(fullYear y d))) m
      (signedNumber (!n') n), rest)
  | .month m :: .number none n _ none :: .sign ',' :: .number none y d none :: rest =>
    some (r.withDay (some (fullYear y d)) m n, rest)
  | .month m :: .number none n _ none :: rest => some (r.withDay none m n, rest)
  | .number none n _ none :: .month m :: .number none y d none :: rest =>
    some (r.withDay (some (fullYear y d)) m n, rest)
  | .number none n _ none :: .month m :: rest => some (r.withDay none m n, rest)
  | .number none h _ none :: .half afternoon :: rest =>
    some (r.withTime h 0 0 (some afternoon), rest)
  | .number none h _ none :: .sign ':' :: .number none m _ none :: .sign ':' ::
      .number none s _ f :: rest => some (timed r h m (s * billion + f.getD 0) rest)
  | .number none h _ none :: .sign ':' :: .number none m _ none :: rest =>
    some (timed r h m 0 rest)
  | .number none n _ none :: .weekday w :: rest => some (r.withWeekday n w, rest)
  | .ordinal n :: .weekday w :: rest => some (r.withWeekday n w, rest)
  | .weekday w :: .sign ',' :: rest => some (r.withWeekday 0 w, rest)
  | .weekday w :: rest => some (r.withWeekday 0 w, rest)
  | .ordinal n :: .unit u :: rest => some (stepped r (u.times n) rest)
  | .number none n _ none :: .unit u :: rest => some (stepped r (u.times n) rest)
  | .number (some minus) n _ none :: .unit u :: rest =>
    some (stepped r (u.times (signedNumber minus n)) rest)
  | .unit u :: rest => some (stepped r u rest)
  | .shift n :: rest => some (r.withStep { days := n }, rest)
  | .number none n d none :: .number (some minus) m _ none :: .unit u :: rest =>
    some (stepped (plainNumber r n d) (u.times (signedNumber minus m)) rest)
  | .number none n d none :: .number (some minus) m e none :: rest =>
    match zoneAt (.number (some minus) m e none :: rest) with
    | (some z, rest) => some ((r.withTime n 0 0 none).withZone z, rest)
    | (none, _) => some (plainNumber r n d, .number (some minus) m e none :: rest)
  | .number none n d none :: rest => some (plainNumber r n d, rest)
  | .zone z :: .number (some minus) n _ none :: .unit u :: rest =>
    some ((r.withZone z).withStep (u.times (signedNumber minus n)), rest)
  | .zone z :: .summerTime :: rest => some (r.withZone (z + 3600), rest)
  | .zone z :: rest =>
    match zoneAt rest with
    | (some d, rest) => some (r.withZone (z + d), rest)
    | (none, rest) => some (r.withZone z, rest)
  | .timeMark :: rest => some (r.withZone (-7 * 3600), rest)
  | _ => none

def dateParts : Nat → Reading → List DateToken → Option Reading
  | 0, _, _ => none
  | _, r, [] => some r
  | limit + 1, r, ts => do
    let (r, rest) ← datePart? r ts
    dateParts limit r rest

/-- The hour of the day, if there is one. -/
def hourOf? (hour : Nat) (half : Option Bool) : Option Nat :=
  match half with
  | none => if hour < 24 then some hour else none
  | some afternoon =>
    if 1 ≤ hour ∧ hour ≤ 12 then some (hour % 12 + if afternoon then 12 else 0) else none

/-- The time that what was read leads to, seen from a time. -/
def Reading.time? (now : Int) (r : Reading) : Option Int := do
  guard (r.times ≤ 1 ∧ r.days ≤ 1 ∧ r.daysOfWeek ≤ 1 ∧ r.zones ≤ 1)
  let here := moment (Int.fdiv now billion)
  let (year, month, day) :=
    match r.day with
    | some (year, month, day) => (year.getD here.year, month, day)
    | none => (here.year, (here.month : Int), (here.day : Int))
  let isKept := r.hasStep ∧ r.days = 0 ∧ r.daysOfWeek = 0
  let (hour, minute, nano) ←
    match r.time with
    | some (hour, minute, nano, half) => do
      let hour ← hourOf? hour half
      pure (hour, minute, nano)
    | none =>
      if isKept then
        pure (here.hour, here.minute, here.second * billion + (Int.fmod now billion).toNat)
      else pure (0, 0, 0)
  guard (0 < month ∧ 0 < day)
  let m : Moment :=
    { year, month := month.toNat, day := day.toNat, hour, minute, second := nano / billion }
  guard (isValid m ∧ m.second < 60)
  let weekdayShift : Int :=
    match r.dayOfWeek with
    | some (ordinal, n) =>
      if r.days = 0 then
        let today := Calendar.weekday (seconds m)
        let ahead : Int := ((n + 7 - today) % 7 : Nat)
        ahead + 7 * (ordinal - if 0 < ordinal ∧ today ≠ n then 1 else 0)
      else 0
    | none => 0
  let later := seconds (addMonths m r.step.months) + (r.step.days + weekdayShift) * 86400
  let zoned := later - r.zone.getD 0 + r.step.seconds
  return zoned * billion + (nano % billion : Nat)

def withoutZoneName (cs : List Char) : List Char :=
  match cs with
  | 'T' :: 'Z' :: '=' :: '"' :: rest => (rest.dropWhile (· ≠ '"')).drop 1
  | _ => cs

/-- The time that a text names, seen from a time; none if it names none. -/
def parse? (now : Int) (text : String) : Option Int :=
  let cs := withoutZoneName (text.toList.dropWhile Numeral.isBlank)
  match cs.dropWhile Numeral.isBlank with
  | '@' :: rest =>
    match dateTokens (rest.length + 1) rest with
    | [.number minus n _ fraction] =>
      let nano : Int := (n * billion + fraction.getD 0 : Nat)
      some (if minus = some true then -nano else nano)
    | _ => none
  | _ => do
    let tokens := dateTokens (cs.length + 1) cs
    (← dateParts (tokens.length + 1) {} tokens).time? now

end WasmBundle.Shell.Calendar
