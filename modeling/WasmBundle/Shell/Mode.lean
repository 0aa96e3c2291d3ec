import WasmBundle.Shell.Numeral

/-!
# Modes

The permissions of a file: a number whose octal digits stand for the owner, the group and all
others, under one for what holds when it runs. A mode is written as that number, or as changes to
it: for whom, a sign, and what.
-/

namespace WasmBundle.Shell.Mode

def all : Nat := 0o7777

def share (who : Char) : Nat :=
  match who with
  | 'u' => 0o4700
  | 'g' => 0o2070
  | 'o' => 0o1007
  | _ => all

/-- The permissions that a letter names, for everyone. -/
def granted (letter : Char) : Nat :=
  match letter with
  | 'r' => 0o444
  | 'w' => 0o222
  | 'x' => 0o111
  | 's' => 0o6000
  | 't' => 0o1000
  | _ => 0

def less (a b : Nat) : Nat := a - (a &&& b)

structure Setting where
  /-- The permissions that are withheld where no one is named. -/
  mask : Nat := 0
  isDirectory : Bool := false

/-- What some of those that have permissions have, for everyone. -/
def copied (mode : Nat) (who : Char) : Nat :=
  let three :=
    match who with
    | 'u' => mode / 64 % 8
    | 'g' => mode / 8 % 8
    | _ => mode % 8
  three * 0o111

def lettered (s : Setting) (mode : Nat) (letters : List Char) : Nat :=
  letters.foldl (fun n c =>
    if c = 'X' then if s.isDirectory ∨ mode &&& 0o111 ≠ 0 then n ||| 0o111 else n
    else n ||| granted c) 0

def isSign (c : Char) : Bool := c = '+' ∨ c = '-' ∨ c = '='

def isOctal (c : Char) : Bool := '0' ≤ c ∧ c ≤ '7'

/-- The mode after a change by a sign. Without names, what is withheld stays as it is. -/
def applied (s : Setting) (who : List Char) (sign : Char) (value mode : Nat) : Nat :=
  let affected := who.foldl (fun n c => n ||| share c) 0
  let value := if who.isEmpty then less value s.mask else value &&& affected
  match sign with
  | '+' => mode ||| value
  | '-' => less mode value
  | _ => (if who.isEmpty then 0 else less mode affected) ||| value

/-- The mode after the changes that are left of a clause; none if it is malformed. A number may
stand only where no one is named. -/
def changed? (s : Setting) (who : List Char) : Nat → List Char → Nat → Option Nat
  | 0, _, _ => none
  | limit + 1, cs, mode =>
    match cs with
    | [] => none
    | sign :: rest =>
      if !isSign sign then none
      else
        let digits := if who.isEmpty then rest.takeWhile isOctal else []
        let letters := rest.takeWhile ['r', 'w', 'x', 'X', 's', 't'].contains
        let (after, left) :=
          if !digits.isEmpty then
            (applied s ['a'] sign (Numeral.ofDigits 8 digits) mode, rest.drop digits.length)
          else
            match rest with
            | c :: others =>
              if ['u', 'g', 'o'].contains c then (applied s who sign (copied mode c) mode, others)
              else (applied s who sign (lettered s mode letters) mode, rest.drop letters.length)
            | [] => (applied s who sign 0 mode, [])
        if left.isEmpty then some after else changed? s who limit left after

/-- The mode after a clause: for whom, and the changes. -/
def afterClause? (s : Setting) (mode : Nat) (clause : List Char) : Option Nat :=
  let who := clause.takeWhile ['u', 'g', 'o', 'a'].contains
  changed? s who (clause.length + 1) (clause.drop who.length) mode

/-- The mode that a text makes of another one; none if the text is no mode. -/
def after? (s : Setting) (text : String) (mode : Nat) : Option Nat :=
  let cs := text.toList
  if !cs.isEmpty ∧ cs.all isOctal then
    let n := Numeral.ofDigits 8 cs
    if n ≤ all then some n else none
  else (splitAtSeparator ',' cs).foldlM (afterClause? s) mode

/-- Three permissions as letters; the last one tells also of what holds when the file runs. -/
def shownThree (n : Nat) (special : Bool) (letter : Char) : List Char :=
  let runs := n % 2 = 1
  [if n / 4 % 2 = 1 then 'r' else '-', if n / 2 % 2 = 1 then 'w' else '-',
    if special then if runs then letter else letter.toUpper else if runs then 'x' else '-']

def shown (mode : Nat) : String :=
  String.ofList (shownThree (mode / 64 % 8) (mode / 2048 % 2 = 1) 's' ++
    shownThree (mode / 8 % 8) (mode / 1024 % 2 = 1) 's' ++
    shownThree (mode % 8) (mode / 512 % 2 = 1) 't')

def octal (width mode : Nat) : String :=
  let digits := Nat.toDigits 8 mode
  String.ofList (List.replicate (width - digits.length) '0' ++ digits)

end WasmBundle.Shell.Mode
