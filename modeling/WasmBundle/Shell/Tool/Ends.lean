import WasmBundle.Shell.Tool.Lines

/-!
# The ends of inputs

Tools that show where an input starts or where it ends.
-/

namespace WasmBundle.Shell.Tool

open Running

structure Extent where
  lines : Bool
  count : Nat
  /-- Whether the count says what is left out. -/
  omits : Bool
  /-- What ends lines. -/
  sign : Char := '\n'

def Extent.pieces (e : Extent) (b : Bytes) : List (List Char) :=
  if e.lines then closedRecords e.sign (chars b) else (chars b).map fun c => [c]

def partOptions : OptionTable where
  flags := ['q', 'v', 'z']
  valued := ['n', 'c']
  optional := "0123456789".toList
  long := [("bytes", 'c'), ("lines", 'n'), ("quiet", 'q'), ("silent", 'q'), ("verbose", 'v'),
    ("zero-terminated", 'z')]

/-- The extent that options give, where a sign turns a count into what is left out. -/
def extent? (i : Invocation) (sign : Char) : Except String Extent :=
  let (isLines, text) :=
    match i.options.reverse.find? fun o => o.1 == 'n' || o.1 == 'c' with
    | some (letter, text) => (letter == 'n', text)
    | none => (true, "10")
  let first := text.toList.head?
  let omits := first = some sign
  let unsigned := if first = some '-' then String.ofList (text.toList.drop 1) else text
  match Size.counted? Size.countUnits unsigned with
  | .ok count => .ok { lines := isLines, count, omits, sign := closingSign i }
  | .error reason =>
    .error ("invalid number of " ++ (if isLines then "lines" else "bytes") ++ ": " ++
      quotedText unsigned ++ reason)

/-- What letters behind an old count make of it: options, or a letter that means nothing. -/
def trailing (digits : String) : Char → String → List Char → Except Char (List String)
  | letter, unit, [] => .ok ["-" ++ String.ofList [letter] ++ digits ++ unit]
  | letter, unit, c :: rest =>
    match c with
    | 'c' => trailing digits 'c' "" rest
    | 'l' => trailing digits 'n' unit rest
    | _ =>
      if ['b', 'k', 'm'].contains c then trailing digits 'c' (String.ofList [c]) rest
      else if ['q', 'v', 'z'].contains c then
        (trailing digits letter unit rest).map fun l => ("-" ++ String.ofList [c]) :: l
      else .error c

/-- Arguments with a count in its old form, as the first of them, put into the new one. -/
def withOldCount (arguments : List String) : Except Char (List String) :=
  match arguments with
  | a :: rest =>
    match a.toList with
    | '-' :: c :: cs =>
      if !c.isDigit then .ok arguments
      else
        let digits := (c :: cs).takeWhile Char.isDigit
        (trailing (String.ofList digits) 'n' "" ((c :: cs).drop digits.length)).map (· ++ rest)
    | _ => .ok arguments
  | [] => .ok []

/-- Arguments with a count from the end, or from the start, in its old form put into the new one.
They must be such an argument alone or with one operand; any others are left as they are. -/
def withOldEnd (arguments : List String) : Except String (List String) :=
  let fits :=
    match arguments with
    | [_] => true
    | [_, b] => b = "-" || b.toList.head? != some '-'
    | _ :: "--" :: rest => rest.length ≤ 1
    | _ => false
  match if fits then (arguments.head?.map String.toList).getD [] else [] with
  | [] => .ok arguments
  | sign :: cs =>
    let digits := cs.takeWhile Char.isDigit
    let rest := cs.drop digits.length
    let isOld := sign = '+' || (sign = '-' && !cs.isEmpty && cs != ['c'])
    let (letter, unit, rest) :=
      match rest with
      | 'b' :: r => ("c", if digits.isEmpty then 512 else 1, r)
      | 'c' :: r => ("c", 1, r)
      | 'l' :: r => ("n", 1, r)
      | r => ("n", 1, r)
    let hasBlocks := (cs.drop digits.length).head? = some 'b'
    let n := if digits.isEmpty then 10 * unit else Numeral.ofDigits 10 digits
    if !isOld ∨ !(rest.isEmpty || rest == ['f']) then .ok arguments
    else if UInt64.size ≤ n then
      .error ("invalid number: " ++ quotedText (arguments.headD "") ++
        ": Numerical result out of range")
    else
      let size := if hasBlocks ∧ !digits.isEmpty then n * 512 else n
      let text := "-" ++ letter ++ (if sign = '+' then "+" else "") ++ toString size
      .ok (text :: (if rest.isEmpty then [] else ["-f"]) ++ arguments.drop 1)

/-- Gives back what is left of an input after its first part, where that can be: lines are looked
for ahead of what is shown, which only a file allows to take back. -/
def leaveRest (e : Extent) (operand : String) (pieces : List (List Char)) : Running Unit := do
  if operand = "-" then
    let count := if e.omits then pieces.length - e.count else e.count
    let rest := octets (String.ofList (pieces.drop count).flatten)
    match streamOf? (← get) 0 with
    | some (_, .file ..) => giveBack 0 rest
    | _ => if !e.lines ∧ !e.omits then giveBack 0 rest

def inputTitle (operand : String) : String :=
  if operand = "-" then "standard input" else operand

/-- Shows a part of each input, under its name if there are several. The rest of an input of which
the first part is shown is left to others. -/
def showParts (name : String) (i : Invocation) (e : Extent) (isFirstPart : Bool)
    (part : List (List Char) → List (List Char)) : Running Nat :=
  let operands := inputs i.operands
  let heading := (i.options.reverse.find? fun o => o.1 == 'q' || o.1 == 'v').map (·.1 == 'v')
  let titled := heading.getD (operands.length > 1)
  let announce := fun (isFirst : Bool) (o : String) => do
    if titled then print ((if isFirst then "" else "\n") ++ "==> " ++ inputTitle o ++ " <==\n")
  let rec go (isFirst : Bool) : List String → Running Nat
    | [] => return 0
    | o :: rest => do
      match ← contentUpTo (if e.lines then 0 else e.count) o with
      | .error .isDirectory =>
        announce isFirst o
        let text := "error reading " ++ quotedPath (inputTitle o) ++ ": "
        let status ← complain name (text ++ IoError.isDirectory.reason)
        return max status (← go false rest)
      | .error .badDescriptor =>
        let verb := if isFirstPart then "error reading " else "cannot fstat "
        let reason := IoError.badDescriptor.reason
        let status ← complain name (verb ++ quotedPath (inputTitle o) ++ ": " ++ reason)
        printError (name ++ ": -: " ++ reason ++ "\n")
        return max status (← go isFirst rest)
      | .error x =>
        let text := "cannot open " ++ quotedPath o ++ " for reading: "
        let status ← complain name (text ++ x.reason)
        return max status (← go isFirst rest)
      | .ok b =>
        announce isFirst o
        let pieces := e.pieces b
        printChars (part pieces).flatten
        if isFirstPart then leaveRest e o pieces
        go false rest
  go true operands

def showStart : Tool := fun r name arguments => do
  let refuse := fun (c : Char) => misuse name ("invalid trailing option -- " ++ String.ofList [c]) 1
  match withOldCount arguments with
  | .error c => refuse c
  | .ok arguments =>
    withOptions partOptions 1 (fun _ name i => do
      match i.options.find? fun o => o.1.isDigit with
      | some (c, _) => refuse c
      | none =>
        match extent? i '-' with
        | .error text => complain name text
        | .ok e =>
          showParts name i e true fun l =>
            if e.omits then l.take (l.length - e.count) else l.take e.count)
      r name arguments

def endOptions : OptionTable :=
  { partOptions with
    flags := partOptions.flags ++ ['f', 'F', 'ρ']
    valued := partOptions.valued ++ ['s', 'π', 'μ']
    optional := 'φ' :: partOptions.optional
    long := partOptions.long ++ [("follow", 'φ'), ("max-unchanged-stats", 'μ'), ("pid", 'π'),
      ("retry", 'ρ'), ("sleep-interval", 's')] }

def endFault? (o : Char × String) : Option String :=
  let isSeconds := (Decimal.literal? o.2.toList).any fun r => r.2.2.isEmpty
  if o.1.isDigit then some ("option used in invalid context -- " ++ String.ofList [o.1])
  else if o.1 = 's' ∧ !isSeconds then some ("invalid number of seconds: " ++ quotedText o.2)
  else if o.1 = 'π' ∧ (Numeral.count? o.2).isNone then some ("invalid PID: " ++ quotedText o.2)
  else if o.1 = 'μ' ∧ (Numeral.count? o.2).isNone then
    some ("invalid maximum number of unchanged stats between opens: " ++ quotedText o.2)
  else none

def showEnd : Tool := fun r name arguments => do
  match withOldEnd arguments with
  | .error text => complain name text
  | .ok arguments =>
    withOptions endOptions 1 (fun _ name i => do
      match i.options.findSome? endFault? with
      | some text => complain name text
      | none =>
        match extent? i '+' with
        | .error text => complain name text
        | .ok e =>
          let follows := ['f', 'F', 'φ'].any i.has
          if i.has 'ρ' ∧ !follows then
            printError (name ++
              ": warning: --retry ignored; --retry is useful only when following\n")
          if i.has 'π' ∧ !follows then
            printError (name ++
              ": warning: PID ignored; --pid=PID is useful only when following\n")
          if e.count = 0 ∧ !e.omits ∧ !follows then return 0
          else
            showParts name i e false fun l =>
              if e.omits then l.drop (e.count - 1) else l.drop (l.length - e.count))
      r name arguments

end WasmBundle.Shell.Tool
