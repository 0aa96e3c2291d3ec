import WasmBundle.Shell.Tool.Lines

/-!
# Comparing bytes

The tool that compares two inputs byte by byte and tells their first difference, or all of them.
-/

namespace WasmBundle.Shell.Comparing

open Running Tool

/-- A place where two inputs differ, counted from one, with the bytes there. -/
structure Difference where
  place : Nat
  /-- How many lines end before it, in the first input. -/
  ends : Nat
  first : UInt8
  second : UInt8
  deriving DecidableEq, Repr

/-- The places where inputs differ, as far as both of them go. -/
def differencesFrom : Nat → Nat → Bytes → Bytes → List Difference
  | place, ends, a :: l, b :: m =>
    let others := differencesFrom (place + 1) (if a = 10 then ends + 1 else ends) l m
    if a = b then others else { place, ends, first := a, second := b } :: others
  | _, _, _, _ => []

def differences (l m : Bytes) : List Difference := differencesFrom 1 0 l m

def octalText (b : UInt8) : String :=
  Format.padded false ' ' 3 (String.ofList (Nat.toDigits 8 b.toNat))

/-- A byte as a character; a control character and a high one have a sign before them. -/
def characterText (b : UInt8) : String :=
  let low := b.toNat % 128
  let high := if b.toNat < 128 then [] else ['M', '-']
  let sign :=
    if low < 32 then ['^', Char.ofNat (low + 64)]
    else if low = 127 then ['^', '?']
    else [Char.ofNat low]
  String.ofList (high ++ sign)

/-- What is compared, and how it is told. -/
structure Order where
  showsBytes : Bool
  lists : Bool
  silent : Bool
  limit : Option Nat
  /-- How many bytes of each input are left out. -/
  skipped : Nat × Nat

def options : OptionTable where
  flags := ['b', 'c', 'l', 's']
  valued := ['i', 'n']
  long := [("print-bytes", 'b'), ("print-chars", 'c'), ("ignore-initial", 'i'), ("verbose", 'l'),
    ("bytes", 'n'), ("silent", 's'), ("quiet", 's')]

def units : List Char := ['k', 'K', 'M', 'G', 'T', 'P', 'E', 'Z', 'Y']

def count? (text : String) : Option Nat := (Size.counted? units text).toOption

/-- The counts of bytes that are left out: one for both inputs or two. -/
def skips? (text : String) : Option (Nat × Nat) :=
  match splitAtSeparator ':' text.toList with
  | [a] => (count? (String.ofList a)).map fun n => (n, n)
  | a :: rest => do
    let n ← count? (String.ofList a)
    let m ← count? (String.ofList (rest.intersperse [':']).flatten)
    return (n, m)
  | [] => none

def order (i : Invocation) : Except String Order := do
  let invalid := fun (option text : String) =>
    "invalid --" ++ option ++ " value " ++ quoted text
  let skipped ← match i.value? 'i' with
    | none => pure (0, 0)
    | some text => ((skips? text).map .ok).getD (.error (invalid "ignore-initial" text))
  let limit ← match i.value? 'n' with
    | none => pure none
    | some text => ((count? text).map fun n => .ok (some n)).getD (.error (invalid "bytes" text))
  let skipOf := fun (text : String) =>
    ((count? text).map .ok).getD (.error (invalid "ignore-initial" text))
  let extra := i.operands.drop 2
  let first ← extra.head?.mapM skipOf
  let second ← (extra.drop 1).head?.mapM skipOf
  if i.has 'l' && i.has 's' then throw "options -l and -s are incompatible"
  match i.operands with
  | [] => throw ("missing operand after " ++ quoted "cmp")
  | _ :: _ :: _ :: _ :: e :: _ => throw ("extra operand " ++ quoted e)
  | _ =>
    return {
      showsBytes := i.has 'b' || i.has 'c'
      lists := i.has 'l'
      silent := i.has 's'
      limit
      skipped := (max skipped.1 (first.getD 0), max skipped.2 (second.getD 0)) }

def firstText (o : Order) (a b : String) (d : Difference) : String :=
  a ++ " " ++ b ++ " differ: " ++ (if o.showsBytes then "byte " else "char ") ++
    toString d.place ++ ", line " ++ toString (d.ends + 1) ++
    (if o.showsBytes then
      " is " ++ octalText d.first ++ " " ++ characterText d.first ++ " " ++ octalText d.second ++
        " " ++ characterText d.second
    else "") ++ "\n"

def listedText (o : Order) (width : Nat) (d : Difference) : String :=
  let number := Format.padded false ' ' width (toString d.place)
  let bytes :=
    if o.showsBytes then
      octalText d.first ++ " " ++ Format.padded true ' ' 4 (characterText d.first) ++ " " ++
        octalText d.second ++ " " ++ characterText d.second
    else octalText d.first ++ " " ++ octalText d.second
  number ++ " " ++ bytes ++ "\n"

/-- Where an input that is shorter than the other one ends. -/
def endText (o : Order) (short : String) (text : Bytes) : String :=
  let n := text.length
  let ends := text.count 10
  let place :=
    if n = 0 then " which is empty"
    else
      " after byte " ++ toString n ++
        (if o.lists then ""
        else if text.getLast? = some 10 then ", line " ++ toString ends
        else ", in line " ++ toString (ends + 1))
  "EOF on " ++ short ++ place

/-- Compares two inputs, of which the first bytes are left out already. -/
def compare (name : String) (o : Order) (a b : String) (l m : Bytes) : Running Nat := do
  let all := differences l m
  if o.silent then return if l = m then 0 else 1
  else
    let finish : Running Unit :=
      if l.length < m.length then printError (name ++ ": " ++ endText o a l ++ "\n")
      else if m.length < l.length then printError (name ++ ": " ++ endText o b m ++ "\n")
      else pure ()
    if o.lists then
      finish
      let width := (toString (min l.length m.length)).length
      print (String.join (all.map (listedText o width)))
    else
      match all with
      | d :: _ => print (firstText o a b d)
      | [] => finish
    return if l = m then 0 else 1

def compareFiles : Tool := fun _ name arguments => do
  let refuse := fun (text : String) => do
    printError (name ++ ": " ++ text ++ "\n" ++ name ++ ": " ++ tryHelp name)
    return 2
  match Invocation.read options arguments with
  | .error e => refuse e.message
  | .ok i =>
    match order i with
    | .error text => refuse text
    | .ok o =>
      let a := i.operands.headD "-"
      let b := (i.operands.drop 1).headD "-"
      let take := fun (skipped : Nat) (l : Bytes) =>
        let rest := l.drop skipped
        (o.limit.map rest.take).getD rest
      let most := fun (skipped : Nat) => skipped + o.limit.getD 0
      let refuse := fun (path : String) (e : IoError) => do
        if !o.silent then printError (name ++ ": " ++ path ++ ": " ++ e.reason ++ "\n")
        return 2
      match ← contentUpTo (most o.skipped.1) a with
      | .error e => refuse a e
      | .ok l =>
        match ← contentUpTo (most o.skipped.2) b with
        | .error e => refuse b e
        | .ok m => compare name o a b (take o.skipped.1 l) (take o.skipped.2 m)

end WasmBundle.Shell.Comparing
