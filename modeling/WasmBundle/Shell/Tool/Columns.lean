import WasmBundle.Shell.Tool.Lines

/-!
# Columns

The tool that cuts parts out of lines, by positions or by fields, and the one that puts the lines of
several inputs side by side.
-/

namespace WasmBundle.Shell.Tool

open Running

/-- Positions counted from one. Without an end the range goes on for ever. -/
structure Range where
  first : Nat
  last : Option Nat
  deriving DecidableEq, Repr

inductive RangeFault where
  | zero
  | doubleDash
  | noEndpoint
  | decreasing
  | tooLarge (digits : String)
  | noPosition (text : String)
  deriving DecidableEq, Repr

/-- What is said of a list, whose ranges are of fields or of characters. -/
def RangeFault.message (ofFields : Bool) : RangeFault → String
  | .zero =>
    (if ofFields then "fields" else "byte/character positions") ++ " are numbered from 1"
  | .doubleDash => if ofFields then "invalid field range" else "invalid byte or character range"
  | .noEndpoint => "invalid range with no endpoint: -"
  | .decreasing => "invalid decreasing range"
  | .tooLarge digits =>
    (if ofFields then "field number " else "byte/character offset ") ++ quotedText digits ++
      " is too large"
  | .noPosition text =>
    (if ofFields then "invalid field value " else "invalid byte/character position ") ++
      quotedText text

/-- The number at the start of a text, and what follows it; none if there are no digits. -/
def position? (cs : List Char) : Except RangeFault (Option Nat × List Char) :=
  let digits := cs.takeWhile Char.isDigit
  let n := Numeral.ofDigits 10 digits
  if Size.greatest ≤ n then .error (.tooLarge (String.ofList digits))
  else .ok (if digits.isEmpty then none else some n, cs.drop digits.length)

def endsRange (c : Char) : Bool := c = ',' || isSpace c

def range? (cs : List Char) : Except RangeFault (Range × List Char) := do
  let (first, rest) ← position? cs
  match rest with
  | '-' :: more =>
    if first = some 0 then throw .zero
    let start := first.getD 1
    let (last, rest) ← position? more
    match rest.head?, last with
    | some '-', _ => throw .doubleDash
    | some c, _ => if !endsRange c then throw (.noPosition (String.ofList rest))
    | none, _ => pure ()
    match last with
    | some n => if n < start then throw .decreasing else return (⟨start, some n⟩, rest)
    | none => if first.isNone then throw .noEndpoint else return (⟨start, none⟩, rest)
  | c :: _ =>
    if !endsRange c then throw (.noPosition (String.ofList rest))
    else if first.getD 0 = 0 then throw .zero
    else return (⟨first.getD 0, first⟩, rest)
  | [] => if first.getD 0 = 0 then throw .zero else return (⟨first.getD 0, first⟩, [])

def rangesUpTo : Nat → List Char → Except RangeFault (List Range)
  | 0, _ => .ok []
  | limit + 1, cs => do
    let (r, rest) ← range? cs
    match rest with
    | [] => return [r]
    | _ :: more => return r :: (← rangesUpTo limit more)

def mergedRanges (l : List Range) : List Range :=
  let sorted := l.mergeSort fun a b => a.first ≤ b.first
  (sorted.foldl (fun (done : List Range) r =>
    match done with
    | before :: others =>
      if before.last.all fun n => decide (r.first ≤ n) then
        let last := before.last.bind fun m => r.last.map fun n => max m n
        { before with last } :: others
      else r :: done
    | [] => [r]) []).reverse

/-- The ranges between ranges that are in order, from a position on. -/
def rangesBetween : Nat → List Range → List Range
  | start, [] => [⟨start, none⟩]
  | start, r :: rest =>
    let here := if start < r.first then [⟨start, some (r.first - 1)⟩] else []
    match r.last with
    | some n => here ++ rangesBetween (n + 1) rest
    | none => here

def Range.holds (r : Range) (n : Nat) : Bool := r.first ≤ n && r.last.all (n ≤ ·)

def inRanges (l : List Range) (n : Nat) : Bool := l.any (·.holds n)

/-- Characters at the positions of ranges; a text stands between those of different ranges. -/
def cutPositions (l : List Range) (between : List Char) :
    Nat → Bool → List Char → List Char
  | _, _, [] => []
  | n, isFirst, c :: rest =>
    if inRanges l n then
      let starts := !isFirst && l.any fun r => r.first == n
      (if starts then between else []) ++ c :: cutPositions l between (n + 1) false rest
    else cutPositions l between (n + 1) isFirst rest

/-- The fields of a line whose numbers are in ranges; a line without fields stays, or goes. -/
def cutFields (l : List Range) (delimiter : Char) (between : List Char) (onlyDelimited : Bool)
    (line : List Char) : Option (List Char) :=
  if line.contains delimiter then
    let kept := (splitAtSeparator delimiter line).zipIdx.filter fun f => inRanges l (f.2 + 1)
    some (between.intercalate (kept.map (·.1)))
  else if onlyDelimited then none
  else some line

def cutColumns : Tool :=
  withOptions
    { flags := ['s', 'n', 'z', 'κ'], valued := ['b', 'c', 'f', 'd', 'ω']
      long := [("bytes", 'b'), ("characters", 'c'), ("fields", 'f'), ("delimiter", 'd'),
        ("only-delimited", 's'), ("output-delimiter", 'ω'), ("complement", 'κ'),
        ("zero-terminated", 'z')] } 1
    fun _ name i => do
      match i.options.filter fun o => ['b', 'c', 'f'].contains o.1 with
      | [] => misuse name "you must specify a list of bytes, characters, or fields" 1
      | [(letter, text)] =>
        let ofFields := letter == 'f'
        let delimiter := (i.value? 'd').map String.toList
        if delimiter.any fun d => d.length > 1 then
          misuse name "the delimiter must be a single character" 1
        else if !ofFields ∧ i.has 'd' then
          misuse name "an input delimiter may be specified only when operating on fields" 1
        else if !ofFields ∧ i.has 's' then
          misuse name
            "suppressing non-delimited lines makes sense\n\tonly when operating on fields" 1
        else
          match rangesUpTo (text.length + 1) text.toList with
          | .error f => misuse name (f.message ofFields) 1
          | .ok all =>
            let l := mergedRanges all
            let l := if i.has 'κ' then rangesBetween 1 l else l
            let sign := closingSign i
            let d := ((delimiter.map fun d => d.headD (Char.ofNat 0))).getD '\t'
            let between := (i.value? 'ω').map String.toList
            let cut := fun (line : List Char) =>
              if ofFields then cutFields l d (between.getD [d]) (i.has 's') line
              else some (cutPositions l (between.getD []) 1 true line)
            forInputs name i.operands fun _ b =>
              let records := recordsOf sign (chars b)
              if ofFields ∧ d = sign then
                printChars (closedBy sign (cut ([sign].intercalate records)).toList)
              else printChars (closedBy sign (records.filterMap cut))
      | _ => misuse name "only one list may be specified" 1

/-- The signs that a list of delimiters names, where none may stand for itself; none at all if a
backslash ends it. -/
def delimiters? : List Char → Option (List (Option Char))
  | [] => some []
  | '\\' :: rest =>
    match rest with
    | [] => none
    | c :: more => do
      let others ← delimiters? more
      let sign :=
        match c with
        | '0' => none
        | 'b' => some (Char.ofNat 8)
        | 'f' => some (Char.ofNat 12)
        | 'n' => some '\n'
        | 'r' => some '\r'
        | 't' => some '\t'
        | 'v' => some (Char.ofNat 11)
        | _ => some c
      return sign :: others
  | c :: rest => (delimiters? rest).map (some c :: ·)

def joinedBy (delimiters : List (Option Char)) (parts : List (List Char)) : List Char :=
  (parts.zipIdx.map fun p =>
    if p.2 = 0 then p.1
    else ((delimiters[(p.2 - 1) % delimiters.length]?).bind id).toList ++ p.1).flatten

def everyNth {α : Type} (step place : Nat) (l : List α) : List α :=
  (l.zipIdx.filter fun p => p.2 % step == place).map (·.1)

def joinSerially (name : String) (sign : Char) (delimiters : List (Option Char))
    (operands : List String) : Running Nat :=
  forEach (fun o => do
    let result ← contentOf o
    match result with
    | .ok b => printChars (closedBy sign [joinedBy delimiters (recordsOf sign (chars b))])
    | .error .isDirectory => printChars [sign]
    | .error _ => pure ()
    match result with
    | .ok _ => return 0
    | .error e => complain name (shownPath o ++ ": " ++ e.reason)) operands

/-- Joins lines of all inputs that have the same place. Operands that stand for the input of the
tool take its lines in turn. -/
def joinInParallel (name : String) (sign : Char) (delimiters : List (Option Char))
    (operands : List String) : Running Nat := do
  let shares := (operands.filter (· == "-")).length
  let input ← if shares = 0 then pure (.ok []) else contentOf "-"
  let rec columns (share : Nat) : List String →
      Running (Except (String × IoError) (List (List (List Char)) × List (String × IoError)))
    | [] => return .ok ([], [])
    | o :: rest => do
      let content ← if o = "-" then pure input else contentOf o
      let column :=
        match content with
        | .ok b =>
          let all := recordsOf sign (chars b)
          if o = "-" then everyNth shares share all else all
        | .error _ => []
      let fault? :=
        match content with
        | .ok _ => none
        | .error e => some (o, e)
      match fault? with
      | some (_, .isDirectory) => pure ()
      | some fault => return .error fault
      | none => pure ()
      match ← columns (if o = "-" then share + 1 else share) rest with
      | .error fault => return .error fault
      | .ok (others, faults) => return .ok (column :: others, fault?.toList ++ faults)
  match ← columns 0 operands with
  | .error (o, e) => complain name (shownPath o ++ ": " ++ e.reason)
  | .ok (all, faults) =>
    let height := (all.map List.length).foldl max 0
    printChars (closedBy sign ((List.range height).map fun n =>
      joinedBy delimiters (all.map fun column => (column[n]?).getD [])))
    forEach
      (fun (f : String × IoError) => complain name (shownPath f.1 ++ ": " ++ f.2.reason)) faults

def joinLines : Tool :=
  withOptions
    { flags := ['s', 'z'], valued := ['d'],
      long := [("serial", 's'), ("delimiters", 'd'), ("zero-terminated", 'z')] } 1
    fun _ name i => do
      let text := (i.value? 'd').getD "\t"
      match delimiters? (if text.isEmpty then ['\\', '0'] else text.toList) with
      | none =>
        complain name ("delimiter list ends with an unescaped backslash: " ++ text)
      | some delimiters =>
        let join := if i.has 's' then joinSerially else joinInParallel
        join name (closingSign i) delimiters (inputs i.operands)

end WasmBundle.Shell.Tool
