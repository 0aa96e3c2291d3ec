import WasmBundle.Shell.Tool.Lines

/-!
# Bytes as letters

The notations that write three bytes as four letters, where `=` fills the last four, and five bytes
as eight capital letters of five bits, where it fills the last eight, and the tools that write and
read them.
-/

namespace WasmBundle.Shell.Base64

open Running Tool

def letter (n : Nat) : Char :=
  if n < 26 then Char.ofNat ('A'.toNat + n)
  else if n < 52 then Char.ofNat ('a'.toNat + (n - 26))
  else if n < 62 then Char.ofNat ('0'.toNat + (n - 52))
  else if n = 62 then '+'
  else '/'

def value? (c : Char) : Option Nat :=
  if 'A' ≤ c ∧ c ≤ 'Z' then some (c.toNat - 'A'.toNat)
  else if 'a' ≤ c ∧ c ≤ 'z' then some (c.toNat - 'a'.toNat + 26)
  else if '0' ≤ c ∧ c ≤ '9' then some (c.toNat - '0'.toNat + 52)
  else if c = '+' then some 62
  else if c = '/' then some 63
  else none

def encode : Bytes → List Char
  | [] => []
  | [a] => [letter (a.toNat / 4), letter (a.toNat % 4 * 16), '=', '=']
  | [a, b] =>
    [letter (a.toNat / 4), letter (a.toNat % 4 * 16 + b.toNat / 16),
      letter (b.toNat % 16 * 4), '=']
  | a :: b :: c :: rest =>
    letter (a.toNat / 4) :: letter (a.toNat % 4 * 16 + b.toNat / 16) ::
      letter (b.toNat % 16 * 4 + c.toNat / 64) :: letter (c.toNat % 64) :: encode rest

/-- The bytes that up to four letters stand for as far as they are right, and whether they are. -/
def decodeGroup (group : List Char) : Bytes × Bool :=
  match group with
  | p :: q :: rest =>
    match value? p, value? q with
    | some p, some q =>
      let first := (p * 4 + q / 16).toUInt8
      match rest with
      | ['=', '='] => ([first], true)
      | r :: rest =>
        match value? r with
        | none => ([first], false)
        | some r =>
          let second := (q % 16 * 16 + r / 4).toUInt8
          match rest with
          | ['='] => ([first, second], true)
          | [s] =>
            match value? s with
            | some s => ([first, second, (r % 4 * 64 + s).toUInt8], true)
            | none => ([first, second], false)
          | _ => ([first, second], false)
      | [] => ([first], false)
    | _, _ => ([], false)
  | _ => ([], false)

/-- The bytes that letters stand for, up to the first group that is wrong, and whether there is
none. -/
def decode : List Char → Bytes × Bool
  | [] => ([], true)
  | p :: q :: r :: s :: rest =>
    match decodeGroup [p, q, r, s] with
    | (b, true) =>
      let (more, isRight) := decode rest
      (b ++ more, isRight)
    | (b, false) => (b, false)
  | group => decodeGroup group

/-- Letters in lines of a width; all in one without an end if the width is 0. -/
def wrapped (width : Nat) : Nat → List Char → List Char
  | 0, cs => cs
  | limit + 1, cs =>
    if width = 0 ∨ cs.isEmpty then cs
    else cs.take width ++ ['\n'] ++ wrapped width limit (cs.drop width)

structure Scheme where
  encode : Bytes → List Char
  decode : List Char → Bytes × Bool
  isLetter : Char → Bool

def scheme : Scheme where
  encode := encode
  decode := decode
  isLetter c := (value? c).isSome

def options : OptionTable where
  flags := ['d', 'i']
  valued := ['w']
  long := [("decode", 'd'), ("ignore-garbage", 'i'), ("wrap", 'w')]

/-- Writes bytes as letters or reads them from letters. -/
def convertBy (s : Scheme) : Tool :=
  withOptions options 1 fun _ name i => do
    match i.operands with
    | _ :: extra :: _ => misuse name ("extra operand " ++ quotedText extra) 1
    | operands =>
      match Numeral.count? ((i.value? 'w').getD "76") with
      | none => complain name ("invalid wrap size: " ++ quotedText ((i.value? 'w').getD ""))
      | some width =>
        let operand := operands.headD "-"
        match ← contentOf operand with
        | .error e =>
          let isRead := operand == "-" || e matches .isDirectory
          complain name ((if isRead then "read error" else shownPath operand) ++ ": " ++ e.reason)
        | .ok b =>
          if i.has 'd' then
            let letters := (chars b).filter fun c =>
              if i.has 'i' then c = '=' || s.isLetter c else c ≠ '\n'
            let (content, isRight) := s.decode letters
            printBytes content
            if isRight then return 0 else complain name "invalid input"
          else
            let letters := s.encode b
            printChars (wrapped width letters.length letters)
            return 0

def convert : Tool := convertBy scheme

end WasmBundle.Shell.Base64

namespace WasmBundle.Shell.Base32

def letter (n : Nat) : Char :=
  if n < 26 then Char.ofNat ('A'.toNat + n) else Char.ofNat ('2'.toNat + (n - 26))

def value? (c : Char) : Option Nat :=
  if 'A' ≤ c ∧ c ≤ 'Z' then some (c.toNat - 'A'.toNat)
  else if '2' ≤ c ∧ c ≤ '7' then some (c.toNat - '2'.toNat + 26)
  else none

def lettersFor (bytes : Nat) : Nat := (bytes * 8 + 4) / 5

/-- The letter of a group of five bytes at a place. -/
def letterAt (group : Nat) (place : Nat) : Char := letter (group / Nat.pow 32 (7 - place) % 32)

/-- The letters for up to five bytes, filled up to eight. -/
def encodeGroup (b : Bytes) : List Char :=
  let padded := b ++ List.replicate (5 - b.length) 0
  let group := padded.foldl (fun n x => n * 256 + x.toNat) 0
  let used := lettersFor b.length
  (List.range used).map (letterAt group) ++ List.replicate (8 - used) '='

def encode : Bytes → List Char
  | a :: b :: c :: d :: e :: rest => encodeGroup [a, b, c, d, e] ++ encode rest
  | [] => []
  | b => encodeGroup b

/-- The bytes that lie wholly in so many letters of a group with such values. -/
def wholeBytes (values : List Nat) : Bytes :=
  let group := (values ++ List.replicate (8 - values.length) 0).foldl (fun n x => n * 32 + x) 0
  (List.range (values.length * 5 / 8)).map fun i => (group / Nat.pow 256 (4 - i) % 256).toUInt8

/-- The values of the letters at the start of a text. -/
def leadingValues : List Char → List Nat
  | [] => []
  | c :: rest =>
    match value? c with
    | some n => n :: leadingValues rest
    | none => []

/-- The bytes that eight letters stand for as far as they are right, and whether they are. -/
def decodeGroup (group : List Char) : Bytes × Bool :=
  let values := leadingValues group
  let filling := group.drop values.length
  let isFull := [2, 4, 5, 7, 8].contains values.length
  (wholeBytes values, group.length = 8 && isFull && filling.all (· == '='))

/-- The bytes that letters stand for, up to the first group that is wrong, and whether there is
none. -/
def decode : List Char → Bytes × Bool
  | [] => ([], true)
  | a :: b :: c :: d :: e :: f :: g :: h :: rest =>
    match decodeGroup [a, b, c, d, e, f, g, h] with
    | (bytes, true) =>
      let (more, isRight) := decode rest
      (bytes ++ more, isRight)
    | (bytes, false) => (bytes, false)
  | _ => ([], false)

def scheme : Base64.Scheme where
  encode := encode
  decode := decode
  isLetter c := (value? c).isSome

def convert : Tool := Base64.convertBy scheme

end WasmBundle.Shell.Base32
