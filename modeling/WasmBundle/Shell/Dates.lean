import WasmBundle.Shell.Format
import WasmBundle.Shell.Numeral

/-!
# Dates

Days are counted from the first one of 1970, and a time is a count of seconds from its start. The
calendar repeats every 400 years, which are counted from a March so that the leap day comes last. A
format for dates is text with directives, each of which stands for a part of a date. The clock shows
universal time.
-/

namespace WasmBundle.Shell

structure Moment where
  year : Int
  month : Nat := 1
  day : Nat := 1
  hour : Nat := 0
  minute : Nat := 0
  second : Nat := 0
  deriving DecidableEq, Repr

namespace Calendar

def secondsOfDay : Int := 86400

def dayNumber (year : Int) (month day : Nat) : Int :=
  let shifted := if month ≤ 2 then year - 1 else year
  let era := Int.fdiv shifted 400
  let yearOfEra := shifted - era * 400
  let monthFromMarch : Int := (((month + 9) % 12 : Nat) : Int)
  let dayOfYear := (153 * monthFromMarch + 2) / 5 + (day : Int) - 1
  let dayOfEra := yearOfEra * 365 + yearOfEra / 4 - yearOfEra / 100 + dayOfYear
  era * 146097 + dayOfEra - 719468

/-- The date of a day by its number: year, month and day. -/
def date (number : Int) : Int × Nat × Nat :=
  let n := number + 719468
  let era := Int.fdiv n 146097
  let dayOfEra := n - era * 146097
  let yearOfEra := (dayOfEra - dayOfEra / 1460 + dayOfEra / 36524 - dayOfEra / 146096) / 365
  let dayOfYear := dayOfEra - (365 * yearOfEra + yearOfEra / 4 - yearOfEra / 100)
  let monthFromMarch := (5 * dayOfYear + 2) / 153
  let day := dayOfYear - (153 * monthFromMarch + 2) / 5 + 1
  let month := if monthFromMarch < 10 then monthFromMarch + 3 else monthFromMarch - 9
  (yearOfEra + era * 400 + (if month ≤ 2 then 1 else 0), month.toNat, day.toNat)

def seconds (m : Moment) : Int :=
  dayNumber m.year m.month m.day * secondsOfDay + (m.hour * 3600 + m.minute * 60 + m.second : Nat)

/-- The moment that a count of seconds leads to. -/
def moment (seconds : Int) : Moment :=
  let days := Int.fdiv seconds secondsOfDay
  let rest := (seconds - days * secondsOfDay).toNat
  let (year, month, day) := date days
  { year := year, month := month, day := day, hour := rest / 3600, minute := rest / 60 % 60,
    second := rest % 60 }

/-- The day of the week, counted from Sunday. -/
def weekday (seconds : Int) : Nat :=
  ((Int.fdiv seconds secondsOfDay + 4) % 7).toNat

/-- The day of the year, counted from one. -/
def dayOfYear (m : Moment) : Nat :=
  (dayNumber m.year m.month m.day - dayNumber m.year 1 1 + 1).toNat

def isLeap (year : Int) : Bool := year % 4 = 0 ∧ (year % 100 ≠ 0 ∨ year % 400 = 0)

def monthLength (year : Int) (month : Nat) : Nat :=
  match month with
  | 2 => if isLeap year then 29 else 28
  | 4 => 30
  | 6 => 30
  | 9 => 30
  | 11 => 30
  | _ => 31

def isValid (m : Moment) : Bool :=
  1 ≤ m.month ∧ m.month ≤ 12 ∧ 1 ≤ m.day ∧ m.day ≤ monthLength m.year m.month ∧ m.hour < 24 ∧
    m.minute < 60 ∧ m.second ≤ 60

def monthNames : List String :=
  ["January", "February", "March", "April", "May", "June", "July", "August", "September",
    "October", "November", "December"]

def dayNames : List String :=
  ["Sunday", "Monday", "Tuesday", "Wednesday", "Thursday", "Friday", "Saturday"]

def addMonths (m : Moment) (count : Int) : Moment :=
  let months := m.year * 12 + ((m.month : Int) - 1) + count
  { m with year := Int.fdiv months 12, month := (months % 12).toNat + 1 }

/-- The seconds of a time written in digits only: month, day, hour and minute, with the year before
them and the seconds behind a dot. -/
def ofDigits? (now : Int) (text : String) : Option Int :=
  let cs := text.toList
  let digits := cs.takeWhile Char.isDigit
  let pair := fun (k : Nat) => Numeral.ofDigits 10 ((digits.drop k).take 2)
  let second? :=
    match cs.drop digits.length with
    | [] => some 0
    | ['.', a, b] => if a.isDigit ∧ b.isDigit then some (Numeral.ofDigits 10 [a, b]) else none
    | _ => none
  let year? : Option (Int × Nat) :=
    match digits.length with
    | 8 => some ((moment now).year, 0)
    | 10 =>
      let y := pair 0
      some (((if y < 69 then 2000 + y else 1900 + y : Nat) : Int), 2)
    | 12 => some (((Numeral.ofDigits 10 (digits.take 4) : Nat) : Int), 4)
    | _ => none
  match year?, second? with
  | some (year, k), some second =>
    let m : Moment :=
      { year := year, month := pair k, day := pair (k + 2), hour := pair (k + 4),
        minute := pair (k + 6), second := second }
    if isValid m then some (seconds m) else none
  | _, _ => none

inductive Item where
  /-- A number, with the width it usually has and what fills it up. -/
  | number (n : Int) (width : Nat) (fill : Char)
  | word (s : String)
  /-- What another format stands for. -/
  | format (s : String)
  /-- The parts of a second. -/
  | parts

/-- The number of the week in which a day is, where weeks start with a day of the week. -/
def weekFrom (start weekday dayOfYear : Nat) : Nat :=
  (dayOfYear + 6 - (weekday + 7 - start) % 7) / 7

/-- The year and the number of a week that starts on Monday and belongs to the year that most of its
days are in. -/
def isoWeek (m : Moment) (weekday : Nat) : Int × Nat :=
  let thursday := dayNumber m.year m.month m.day - ((weekday + 6) % 7 : Nat) + 3
  let (year, _, _) := date thursday
  (year, ((thursday - dayNumber year 1 1) / 7).toNat + 1)

def ordinaryHour (hour : Nat) : Nat := (hour + 11) % 12 + 1

/-- What a letter stands for at a time in nanoseconds. -/
def item? (time : Int) (letter : Char) : Option Item :=
  let s := Int.fdiv time 1000000000
  let m := moment s
  let day := weekday s
  let number := fun (n : Nat) (width : Nat) => some (Item.number n width '0')
  let spaced := fun (n : Nat) => some (Item.number n 2 ' ')
  let dayName := (dayNames[day]?).getD ""
  let monthName := (monthNames[m.month - 1]?).getD ""
  let short := fun (w : String) => some (Item.word (String.ofList (w.toList.take 3)))
  let (weekYear, week) := isoWeek m day
  match letter with
  | 'a' => short dayName
  | 'A' => some (.word dayName)
  | 'b' => short monthName
  | 'h' => short monthName
  | 'B' => some (.word monthName)
  | 'c' => some (.format "%a %b %e %H:%M:%S %Y")
  | 'C' => some (.number (Int.fdiv m.year 100) 2 '0')
  | 'd' => number m.day 2
  | 'D' => some (.format "%m/%d/%y")
  | 'e' => spaced m.day
  | 'F' => some (.format "%Y-%m-%d")
  | 'g' => some (.number (Int.fmod weekYear 100) 2 '0')
  | 'G' => some (.number weekYear 4 '0')
  | 'H' => number m.hour 2
  | 'I' => number (ordinaryHour m.hour) 2
  | 'j' => number (dayOfYear m) 3
  | 'k' => spaced m.hour
  | 'l' => spaced (ordinaryHour m.hour)
  | 'm' => number m.month 2
  | 'M' => number m.minute 2
  | 'n' => some (.word "\n")
  | 'N' => some .parts
  | 'p' => some (.word (if m.hour < 12 then "AM" else "PM"))
  | 'P' => some (.word (if m.hour < 12 then "am" else "pm"))
  | 'q' => number ((m.month + 2) / 3) 1
  | 'r' => some (.format "%I:%M:%S %p")
  | 'R' => some (.format "%H:%M")
  | 's' => some (.number s 1 '0')
  | 'S' => number m.second 2
  | 't' => some (.word "\t")
  | 'T' => some (.format "%H:%M:%S")
  | 'u' => number ((day + 6) % 7 + 1) 1
  | 'U' => number (weekFrom 0 day (dayOfYear m)) 2
  | 'V' => number week 2
  | 'w' => number day 1
  | 'W' => number (weekFrom 1 day (dayOfYear m)) 2
  | 'x' => some (.format "%m/%d/%y")
  | 'X' => some (.format "%H:%M:%S")
  | 'y' => some (.number (Int.fmod m.year 100) 2 '0')
  | 'Y' => some (.number m.year 4 '0')
  | 'z' => some (.word "+0000")
  | 'Z' => some (.word "UTC")
  | '%' => some (.word "%")
  | _ => none

def isDateFlag (c : Char) : Bool := ['-', '_', '0', '^', '#'].contains c

/-- What fills an item up where flags say so; `-` asks for nothing. -/
def fillOf (flags : List Char) (usual : Char) : Option Char :=
  match flags.reverse.find? fun c => c = '-' ∨ c = '_' ∨ c = '0' with
  | some '-' => none
  | some '_' => some ' '
  | some _ => some '0'
  | none => some usual

def filled (flags : List Char) (width : Option Nat) (text : String) : String :=
  match fillOf flags ' ' with
  | none => text
  | some fill => Format.padded false fill (width.getD 0) text

def numbered (flags : List Char) (width : Option Nat) (n : Int) (usual : Nat) (fill : Char) :
    String :=
  let sign := if n < 0 then "-" else ""
  match fillOf flags fill with
  | none => toString n
  | some c =>
    let width := width.getD usual
    if c = ' ' then Format.padded false ' ' width (toString n)
    else sign ++ Format.padded false '0' (width - sign.length) (toString n.natAbs)

def cased (flags : List Char) (letter : Char) (text : String) : String :=
  if flags.contains '^' then text.toUpper
  else if flags.contains '#' then
    if letter = 'p' ∨ letter = 'Z' then text.toLower else text.toUpper
  else text

/-- The parts of a second to a number of digits. -/
def secondParts (flags : List Char) (width : Option Nat) (time : Int) : String :=
  let n := (Int.fmod time 1000000000).toNat
  let ds := (Format.padded false '0' 9 (toString n)).toList
  let ds := ds.take (width.getD 9) ++ List.replicate (width.getD 9 - 9) '0'
  if flags.contains '-' then
    let kept := (ds.reverse.dropWhile (· = '0')).reverse
    String.ofList (if kept.isEmpty then ['0'] else kept)
  else String.ofList ds

/-- The zone with colons between its parts, of which there are so many. -/
def zoneText : Nat → String
  | 0 => "+0000"
  | 1 => "+00:00"
  | 2 => "+00:00:00"
  | _ => "+00"

/-- A time in a format; what has no meaning stays as it is. -/
def formatted (time : Int) : Nat → List Char → String
  | 0, _ => ""
  | _, [] => ""
  | limit + 1, '%' :: cs =>
    let flags := cs.takeWhile isDateFlag
    let rest := cs.drop flags.length
    let ds := rest.takeWhile Char.isDigit
    let width := if ds.isEmpty then none else some (Numeral.ofDigits 10 ds)
    let rest := rest.drop ds.length
    let rest :=
      match rest with
      | 'E' :: c :: others => c :: others
      | 'O' :: c :: others => c :: others
      | _ => rest
    let colons := rest.takeWhile (· = ':')
    let rest := rest.drop colons.length
    match rest with
    | [] => String.ofList ('%' :: cs)
    | c :: after =>
      let asIs := String.ofList ('%' :: cs.take (cs.length - after.length))
      let shown :=
        if !colons.isEmpty then
          if c = 'z' ∧ colons.length ≤ 3 then zoneText colons.length else asIs
        else
          match item? time c with
          | some (.number n usual fill) => numbered flags width n usual fill
          | some (.word s) => filled flags width (cased flags c s)
          | some (.format f) =>
            filled flags width (cased flags c (formatted time limit f.toList))
          | some .parts => secondParts flags width time
          | none => asIs
      shown ++ formatted time limit after
  | limit + 1, c :: rest => String.ofList [c] ++ formatted time limit rest

def shownAs (format : String) (time : Int) : String :=
  formatted time (format.length + 30) format.toList

end Calendar

end WasmBundle.Shell
