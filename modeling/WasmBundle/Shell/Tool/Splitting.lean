import WasmBundle.Shell.Tool.Lines

/-!
# Cutting files into pieces

The tool that cuts its input into pieces of some size, or into some number of pieces, and writes
each to a file of its own.
-/

namespace WasmBundle.Shell.Splitting

open Running Tool

/-- Pieces of so many elements, the last of which may be shorter. -/
def groups {α : Type} (size : Nat) : Nat → List α → List (List α)
  | 0, _ => []
  | limit + 1, l =>
    if l.isEmpty then [] else l.take size :: groups size limit (l.drop (max size 1))

/-- Lines put together into pieces of at most so many characters, behind a piece that is begun. A
line that is longer is cut. -/
def packed (size : Nat) : Nat → List Char → List (List Char) → List (List Char)
  | limit + 1, piece, line :: rest =>
    if piece.length + line.length ≤ size then packed size limit (piece ++ line) rest
    else if piece.isEmpty then line.take size :: packed size limit [] (line.drop size :: rest)
    else piece :: packed size limit [] (line :: rest)
  | _, piece, _ => if piece.isEmpty then [] else [piece]

/-- The starts and sizes of so many parts of a length that are as equal as they can be, the greater
ones first. -/
def shares (length count : Nat) : List (Nat × Nat) :=
  (List.range count).map fun i =>
    let spare := length % count
    (i * (length / count) + min i spare, length / count + if i < spare then 1 else 0)

def placed : Nat → List (List Char) → List (Nat × List Char)
  | _, [] => []
  | place, line :: rest => (place, line) :: placed (place + line.length) rest

inductive Cut where
  | lines (n : Nat)
  | bytes (n : Nat)
  | packedLines (n : Nat)
  /-- Into so many parts of equal size. -/
  | parts (n : Nat)
  /-- Into so many parts, none of which ends within a line. -/
  | lineParts (n : Nat)
  /-- Line by line in turn into so many parts. -/
  | turns (n : Nat)
  deriving DecidableEq, Repr

def Cut.pieces (cut : Cut) (sign : Char) (cs : List Char) : List (List Char) :=
  let lines := closedRecords sign cs
  match cut with
  | .lines n => (groups n lines.length lines).map List.flatten
  | .bytes n => groups n cs.length cs
  | .packedLines n => packed n (2 * cs.length + 1) [] lines
  | .parts n => (shares cs.length n).map fun (start, size) => (cs.drop start).take size
  | .lineParts n =>
    let all := placed 0 lines
    (shares cs.length n).map fun (start, size) =>
      (all.filter fun (place, _) => start ≤ place && place < start + size).flatMap (·.2)
  | .turns n =>
    (List.range n).map fun i =>
      (lines.zipIdx.filter fun (_, k) => k % n == i).flatMap (·.1)

/-- The number of pieces, where it is given. -/
def Cut.count? : Cut → Option Nat
  | .parts n => some n
  | .lineParts n => some n
  | .turns n => some n
  | _ => none

/-- How the names of pieces are counted. -/
structure Names where
  stem : String
  /-- The signs that the end of a name is made of. -/
  signs : List Char
  /-- How many of them a name has. -/
  width : Nat := 2
  /-- Whether names become longer when there are no others left. -/
  grows : Bool := true
  first : Nat := 0
  ending : String := ""

namespace Names

def numeral (signs : List Char) (width n : Nat) : List Char :=
  let base := signs.length
  (List.range width).reverse.map fun i => (signs[n / Nat.pow base i % base]?).getD ' '

/-- The end of the name with a number. Names that grow leave the last sign at their start to the
longer ones. -/
def suffix? (x : Names) : Nat → Nat → Nat → Option (List Char)
  | 0, _, _ => none
  | limit + 1, width, n =>
    let base := x.signs.length
    let enough := if x.grows then (base - 1) * Nat.pow base (width - 1) else Nat.pow base width
    if n < enough then some (numeral x.signs width n)
    else if x.grows then
      (suffix? x limit (width + 1) (n - enough)).map ((x.signs.getLast?.getD ' ') :: ·)
    else none

def name? (x : Names) (n : Nat) : Option String :=
  (x.suffix? 60 x.width (x.first + n)).map fun cs => x.stem ++ String.ofList cs ++ x.ending

end Names

/-- Why an order is refused, and whether a hint at the help follows. -/
structure Refusal where
  text : String
  hint : Bool := false

structure Order where
  cut : Option Cut := none
  /-- The number of the only piece that is wanted, which is printed. -/
  only : Option Nat := none
  names : Names := { stem := "x", signs := "abcdefghijklmnopqrstuvwxyz".toList }
  widthGiven : Bool := false
  separator : Option Char := none
  skipsEmpty : Bool := false
  tells : Bool := false

def options : OptionTable where
  flags := ['d', 'x', 'e', 'u', 'ω']
  valued := ['a', 'b', 'C', 'l', 'n', 't', 'σ']
  optional := ['δ', 'ξ']
  long := [("suffix-length", 'a'), ("additional-suffix", 'σ'), ("bytes", 'b'), ("line-bytes", 'C'),
    ("numeric-suffixes", 'δ'), ("hex-suffixes", 'ξ'), ("elide-empty-files", 'e'), ("lines", 'l'),
    ("number", 'n'), ("separator", 't'), ("unbuffered", 'u'), ("verbose", 'ω')]
  counted := some 'l'

def count (what text : String) : Except Refusal Nat :=
  match Size.counted? ('B' :: Size.countUnits) text with
  | .ok 0 => .error { text := "invalid number of " ++ what ++ ": " ++ quotedText text }
  | .ok n => .ok n
  | .error reason =>
    .error { text := "invalid number of " ++ what ++ ": " ++ quotedText text ++ reason }

/-- A number of pieces, with the one that is wanted before it. -/
def chunks (text : String) : Except Refusal (Option Nat × Nat) :=
  match splitAtSeparator '/' text.toList with
  | [k, n] => do
    let n ← count "chunks" (String.ofList n)
    match (Size.counted? [] (String.ofList k)).toOption with
    | some (i + 1) =>
      if i < n then return (some i, n)
      else throw { text := "invalid chunk number: " ++ quotedText (String.ofList k) }
    | _ => throw { text := "invalid chunk number: " ++ quotedText (String.ofList k) }
  | _ => do return (none, ← count "chunks" text)

namespace Order

def cutBy (o : Order) (cut : Cut) : Except Refusal Order :=
  match o.cut with
  | some _ => .error { text := "cannot split in more than one way", hint := true }
  | none => .ok { o with cut := some cut }

def numbered (o : Order) (digits : String) (start : String) : Except Refusal Order :=
  let signs := digits.toList
  let cs := start.toList
  let names := { o.names with signs }
  if cs.isEmpty then .ok { o with names }
  else if !cs.all signs.contains then
    .error { text := quotedText start ++ ": invalid start value for " ++
      (if signs.length = 10 then "numerical" else "hexadecimal") ++ " suffix", hint := true }
  else
    .ok { o with
      names := { names with
        first := Numeral.ofDigits signs.length cs
        grows := false
        width := max names.width cs.length } }

def withOption (o : Order) (option : Char × String) : Except Refusal Order := do
  let (letter, value) := option
  match letter with
  | 'l' => o.cutBy (.lines (← count "lines" value))
  | 'b' => o.cutBy (.bytes (← count "bytes" value))
  | 'C' => o.cutBy (.packedLines (← count "lines" value))
  | 'n' =>
    match value.toList with
    | 'l' :: '/' :: rest =>
      let (only, n) ← chunks (String.ofList rest)
      return { (← o.cutBy (.lineParts n)) with only }
    | 'r' :: '/' :: rest =>
      let (only, n) ← chunks (String.ofList rest)
      return { (← o.cutBy (.turns n)) with only }
    | _ =>
      let (only, n) ← chunks value
      return { (← o.cutBy (.parts n)) with only }
  | 'a' =>
    match (Size.counted? [] value).toOption with
    | some 0 => return o
    | some n => return { o with names := { o.names with width := n, grows := false },
                                widthGiven := true }
    | none => throw { text := "invalid suffix length: " ++ quotedText value }
  | 'd' => o.numbered "0123456789" ""
  | 'x' => o.numbered "0123456789abcdef" ""
  | 'δ' => o.numbered "0123456789" value
  | 'ξ' => o.numbered "0123456789abcdef" value
  | 'σ' =>
    if value.toList.contains '/' then
      throw { text := "invalid suffix " ++ quotedText value ++ ", contains directory separator",
              hint := true }
    else return { o with names := { o.names with ending := value } }
  | 't' =>
    let sign ← match value.toList with
      | [c] => pure c
      | ['\\', '0'] => pure (Char.ofNat 0)
      | [] => throw { text := "empty record separator" }
      | _ => throw { text := "multi-character separator " ++ quotedText value }
    if o.separator.any (· != sign) then
      throw { text := "multiple separator characters specified" }
    return { o with separator := some sign }
  | 'e' => return { o with skipsEmpty := true }
  | 'ω' => return { o with tells := true }
  | _ => return o

def widthFor (base count : Nat) : Nat :=
  (List.range 64).find? (fun w => count ≤ Nat.pow base w) |>.getD 64

/-- The order with names that are wide enough for its pieces. -/
def settled (o : Order) : Except Refusal Order :=
  match o.cut.bind Cut.count? with
  | none => .ok o
  | some n =>
    let needed := widthFor o.names.signs.length (o.names.first + n)
    if o.widthGiven then
      if o.names.width < needed then
        .error { text := "the suffix length needs to be at least " ++ toString needed }
      else .ok o
    else
      .ok { o with names := { o.names with width := max o.names.width needed, grows := false } }

end Order

/-- Writes pieces to files that are numbered from a number on. -/
def writePieces (name : String) (o : Order) : Nat → List (List Char) → Running Nat
  | _, [] => return 0
  | n, piece :: rest => do
    if piece.isEmpty ∧ o.skipsEmpty then writePieces name o n rest
    else
      match o.names.name? n with
      | none => complain name "output file suffixes exhausted"
      | some file =>
        if o.tells then print ("creating file " ++ quotedPath file ++ "\n")
        match ← writeTo file (octets (String.ofList piece)) with
        | .error e => complain name (shownPath file ++ ": " ++ e.reason)
        | .ok () => writePieces name o (n + 1) rest

def split : Tool :=
  withOptions options 1 fun _ name i => do
    match i.options.foldlM Order.withOption {} with
    | .error e => if e.hint then misuse name e.text 1 else complain name e.text
    | .ok o =>
      match i.operands with
      | _ :: _ :: extra :: _ => misuse name ("extra operand " ++ quotedText extra) 1
      | operands =>
        let stem := (operands.drop 1).headD "x"
        match ({ o with names := { o.names with stem } } : Order).settled with
        | .error e => complain name e.text
        | .ok o =>
          let source := operands.headD "-"
          match ← contentOf source with
          | .error .isDirectory => complain name (shownPath source ++ ": Is a directory")
          | .error e =>
            complain name ("cannot open " ++ quotedPath source ++ " for reading: " ++ e.reason)
          | .ok b =>
            let pieces := (o.cut.getD (.lines 1000)).pieces (o.separator.getD '\n') (chars b)
            match o.only with
            | some k =>
              printChars ((pieces[k]?).getD [])
              return 0
            | none => writePieces name o 0 pieces

end WasmBundle.Shell.Splitting
