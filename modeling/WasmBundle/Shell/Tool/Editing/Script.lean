import WasmBundle.Shell.Regex

/-!
# Scripts that edit

A script is a list of instructions, each with addresses that say on which lines it is carried out.
Blocks become jumps: a block starts with an instruction that leads behind its end.
-/

namespace WasmBundle.Shell.Editing

/-- An expression that lines are searched for, with how it is meant. -/
structure Wanted where
  regex : Regex
  ignoresCase : Bool := false
  hasLines : Bool := false

inductive Address where
  | line (n : Nat)
  | last
  /-- Lines in which an expression matches; without one, the expression used last. -/
  | matching (wanted : Option Wanted)
  | stepped (first step : Nat)
  /-- So many lines on, as the end of a range. -/
  | after (n : Nat)
  /-- The next line with a number that is a multiple, as the end of a range. -/
  | upToMultiple (n : Nat)

structure Selection where
  first : Option Address := none
  second : Option Address := none
  negated : Bool := false

/-- How the case of letters is changed. -/
inductive CaseChange where
  | upper
  | lower
  deriving DecidableEq, Repr

inductive Part where
  | text (c : Char)
  | group (n : Nat)
  /-- Changes the case of what follows, or leaves it. -/
  | changing (change : Option CaseChange)
  /-- Changes the case of the next character. -/
  | changingNext (change : CaseChange)

structure Substitution where
  pattern : Option Wanted
  replacement : List Part
  isGlobal : Bool := false
  prints : Bool := false
  /-- The number of the first match that is replaced. -/
  number : Option Nat := none
  /-- The file that the line is added to. -/
  target : Option String := none

inductive Verb where
  /-- Leads behind the end of a block; the selection is that of the block, turned round. -/
  | skip (target : Nat)
  | substitute (s : Substitution)
  | mapChars (pairs : List (Char × Char))
  | delete
  | deleteFirst
  | print
  | printFirst
  /-- Shows the line with everything in it that cannot be seen, at most so wide. -/
  | display (width : Option Nat)
  | number
  | fileName
  | quit (status : Nat) (prints : Bool)
  | append (text : List Char)
  | insert (text : List Char)
  | change (text : List Char)
  | next
  | joinNext
  | hold
  | holdMore
  | bring
  | bringMore
  | exchange
  | clear
  | readFile (path : String)
  | readLine (path : String)
  | writeLine (path : String)
  | writeFirst (path : String)
  | branch (label : String)
  | branchIf (replaced : Bool) (label : String)
  | label (name : String)

structure Instruction where
  selection : Selection
  verb : Verb

inductive Fault where
  | unknownCommand (c : Char)
  | missingCommand
  | unterminated (c : Char)
  | unknownOption
  | repeatedOption (name : String)
  | zeroNumber
  | extraCharacters
  | expectedText
  | unmatchedOpen
  | unexpectedClose
  | unexpectedComma
  | repeatedNegation
  | lineZero
  | noFirstAddress
  | oneAddress
  | addressOfLabel
  | addressOfComment
  | addressOfClose
  | unequalLengths
  | emptyLabel
  | missingFile
  | missingLabel (name : String)
  | newerVersion
  | emptyModified
  | noPrevious
  | badReference (n : Nat)
  | confined
  | badExpression (f : Regex.Fault)

def oldQuoted (text : String) : String :=
  String.ofList (graveAccent :: text.toList ++ [apostrophe])

def Fault.message : Fault → String
  | .unknownCommand c => "unknown command: " ++ oldQuoted (String.ofList [c])
  | .missingCommand => "missing command"
  | .unterminated c =>
    if c = '/' then "unterminated address regex"
    else "unterminated " ++ oldQuoted (String.ofList [c]) ++ " command"
  | .unknownOption => "unknown option to " ++ oldQuoted "s"
  | .repeatedOption name => "multiple " ++ name ++ " options to " ++ oldQuoted "s" ++ " command"
  | .zeroNumber => "number option to " ++ oldQuoted "s" ++ " command may not be zero"
  | .extraCharacters => "extra characters after command"
  | .expectedText =>
    "expected \\ after " ++ oldQuoted "a" ++ ", " ++ oldQuoted "c" ++ " or " ++ oldQuoted "i"
  | .unmatchedOpen => "unmatched " ++ oldQuoted "\x7b"
  | .unexpectedClose => "unexpected " ++ oldQuoted "\x7d"
  | .unexpectedComma => "unexpected " ++ oldQuoted ","
  | .repeatedNegation => "multiple " ++ oldQuoted "!" ++ "s"
  | .lineZero => "invalid usage of line address 0"
  | .noFirstAddress => "invalid usage of +N or ~N as first address"
  | .oneAddress => "command only uses one address"
  | .addressOfLabel => ": doesn" ++ String.ofList [apostrophe] ++ "t want any addresses"
  | .addressOfComment =>
    "comments don" ++ String.ofList [apostrophe] ++ "t accept any addresses"
  | .addressOfClose =>
    oldQuoted "\x7d" ++ " doesn" ++ String.ofList [apostrophe] ++ "t want any addresses"
  | .unequalLengths => "strings for " ++ oldQuoted "y" ++ " command are different lengths"
  | .emptyLabel => "\":\" lacks a label"
  | .missingFile => "missing filename in r/R/w/W commands"
  | .missingLabel name =>
    "can" ++ String.ofList [apostrophe] ++ "t find label for jump to " ++ oldQuoted name
  | .newerVersion => "expected newer version of sed"
  | .emptyModified => "cannot specify modifiers on empty regexp"
  | .noPrevious => "no previous regular expression"
  | .badReference n =>
    "invalid reference \\" ++ toString n ++ " on " ++ oldQuoted "s" ++ " command" ++
      String.ofList [apostrophe] ++ "s RHS"
  | .confined => "e/r/w commands disabled in sandbox mode"
  | .badExpression f => f.message

/-- What is left of a script, the instructions so far and the blocks that are open. -/
structure Script where
  chars : List Char
  done : List Instruction := []
  /-- The places of the blocks, and how much was left of the script at them. -/
  blocks : List (Nat × Nat) := []
  /-- Whether no instruction may name a file. -/
  isConfined : Bool := false

abbrev Reading := StateT Script (Except (Fault × Nat))

def refuse {α : Type} (f : Fault) : Reading α := do
  StateT.lift (.error (f, (← get).chars.length))

def advance (n : Nat) : Reading Unit := modify fun s => { s with chars := s.chars.drop n }

def skipWhile (p : Char → Bool) : Reading Unit :=
  modify fun s => { s with chars := s.chars.dropWhile p }

def peek : Reading (Option Char) := do
  skipWhile isSpace
  return (← get).chars.head?

/-- Refuses what names a file where that is not allowed. -/
def checkAllowed : Reading Unit := do
  if (← get).isConfined then refuse .confined

def number : Reading Nat := do
  let digits := (← get).chars.takeWhile Char.isDigit
  advance digits.length
  return Numeral.ofDigits 10 digits

/-- How many characters a bracket of an expression has behind its opening sign. -/
def bracketLength (cs : List Char) : Nat :=
  let rec inner : Nat → List Char → Nat
    | 0, _ => 0
    | limit + 1, cs =>
      match cs with
      | [] => 0
      | ']' :: _ => 1
      | '[' :: sign :: rest =>
        let isInner := sign = ':' ∨ sign = '.' ∨ sign = '='
        match if isInner then Regex.innerText? sign rest else none with
        | some (text, after) => text.length + 4 + inner limit after
        | none => 1 + inner limit (sign :: rest)
      | _ :: rest => 1 + inner limit rest
  let start := if cs.head? = some '^' then 1 else 0
  let start := if (cs.drop start).head? = some ']' then start + 1 else start
  start + inner cs.length (cs.drop start)

/-- The text of an expression up to a delimiter, which a backslash before it takes its meaning from,
and which means nothing in a bracket. -/
def delimited (c delimiter : Char) : Nat → Reading (List Char)
  | 0 => refuse (.unterminated c)
  | limit + 1 => do
    match (← get).chars with
    | '\\' :: x :: _ =>
      advance 2
      let rest ← delimited c delimiter limit
      if x = delimiter then return x :: rest else return '\\' :: x :: rest
    | ['\\'] =>
      advance 1
      refuse (.unterminated c)
    | '[' :: more =>
      if delimiter = '[' then
        advance 1
        return []
      else
        let length := bracketLength more + 1
        let text := (← get).chars.take length
        advance length
        return text ++ (← delimited c delimiter limit)
    | '\n' :: _ => refuse (.unterminated c)
    | x :: _ =>
      advance 1
      if x = delimiter then return [] else return x :: (← delimited c delimiter limit)
    | [] => refuse (.unterminated c)

/-- A text up to a delimiter in which brackets mean nothing. -/
def plainText (c delimiter : Char) : Nat → Reading (List Char)
  | 0 => refuse (.unterminated c)
  | limit + 1 => do
    match (← get).chars with
    | '\\' :: x :: _ =>
      advance 2
      let rest ← plainText c delimiter limit
      let keeps := x ≠ delimiter ∨ (c = 's' ∧ x = '&')
      return if keeps then '\\' :: x :: rest else x :: rest
    | '\n' :: _ => refuse (.unterminated c)
    | x :: _ =>
      advance 1
      if x = delimiter then return [] else return x :: (← plainText c delimiter limit)
    | [] => refuse (.unterminated c)

def delimitedText (c delimiter : Char) : Reading (List Char) := do
  delimited c delimiter ((← get).chars.length + 1)

def plainDelimited (c delimiter : Char) : Reading (List Char) := do
  plainText c delimiter ((← get).chars.length + 1)

/-- The character that the letters behind a backslash name, and how many they are. -/
def namedChar? (cs : List Char) : Option (Char × Nat) :=
  let coded := fun (base most : Nat) (rest : List Char) =>
    let digits := (rest.take most).takeWhile (Numeral.isDigitOf base)
    if digits.isEmpty then none
    else some (Char.ofNat (Numeral.ofDigits base digits % 256), digits.length + 1)
  match cs with
  | 'a' :: _ => some ('\x07', 1)
  | 'f' :: _ => some ('\x0c', 1)
  | 'n' :: _ => some ('\n', 1)
  | 't' :: _ => some ('\t', 1)
  | 'v' :: _ => some ('\x0b', 1)
  | 'c' :: x :: _ => some (Char.ofNat ((x.toUpper.toNat + 64) % 128), 2)
  | 'd' :: rest => coded 10 3 rest
  | 'o' :: rest => coded 8 3 rest
  | 'x' :: rest => coded 16 2 rest
  | _ => none

def withNamedChars : Nat → List Char → List Char
  | 0, cs => cs
  | limit + 1, cs =>
    match cs with
    | '\\' :: rest =>
      match namedChar? rest with
      | some (c, n) => c :: withNamedChars limit (rest.drop n)
      | none => '\\' :: rest.take 1 ++ withNamedChars limit (rest.drop 1)
    | c :: rest => c :: withNamedChars limit rest
    | [] => []

/-- The part that a letter behind a backslash stands for. -/
def partFor (c : Char) : Part :=
  match c with
  | 'U' => .changing (some .upper)
  | 'L' => .changing (some .lower)
  | 'E' => .changing none
  | 'u' => .changingNext .upper
  | 'l' => .changingNext .lower
  | _ => if c.isDigit then .group (c.toNat - '0'.toNat) else .text c

def parts : Nat → List Char → List Part
  | 0, _ => []
  | limit + 1, cs =>
    match cs with
    | '\\' :: c :: rest =>
      match namedChar? (c :: rest) with
      | some (x, n) => .text x :: parts limit ((c :: rest).drop n)
      | none => partFor c :: parts limit rest
    | '&' :: rest => .group 0 :: parts limit rest
    | c :: rest => .text c :: parts limit rest
    | [] => []

def partsOf (cs : List Char) : List Part := parts cs.length cs

/-- The expression of a text, with letters that say how it is meant; none for no text. -/
def wanted (extended : Bool) (text letters : List Char) : Reading (Option Wanted) := do
  let ignoresCase := letters.any fun c => c.toLower = 'i'
  let hasLines := letters.any fun c => c.toLower = 'm'
  if text.isEmpty then
    if ignoresCase ∨ hasLines then refuse .emptyModified else return none
  else
    match Regex.ofText? (.editing extended) (withNamedChars text.length text) with
    | .ok regex => return some { regex, ignoresCase, hasLines }
    | .error f => refuse (.badExpression f)

/-- Letters behind an expression, apart by blanks. -/
def modifiers : Nat → Reading (List Char)
  | 0 => return []
  | limit + 1 => do
    match ← peek with
    | some c =>
      if c = 'I' ∨ c = 'M' then
        advance 1
        return c :: (← modifiers limit)
      else return []
    | none => return []

/-- The address that comes next, if one does. -/
def address (extended : Bool) : Reading (Option Address) := do
  match (← get).chars with
  | '$' :: _ =>
    advance 1
    return some .last
  | '/' :: _ =>
    advance 1
    let text ← delimitedText '/' '/'
    return some (.matching (← wanted extended text (← modifiers text.length.succ)))
  | '\\' :: d :: _ =>
    advance 2
    let text ← delimitedText '/' d
    return some (.matching (← wanted extended text (← modifiers text.length.succ)))
  | ['\\'] =>
    advance 1
    refuse (.unterminated '/')
  | '+' :: _ =>
    advance 1
    let _ ← peek
    return some (.after (← number))
  | '~' :: _ =>
    advance 1
    let _ ← peek
    return some (.upToMultiple (← number))
  | c :: _ =>
    if c.isDigit then
      let n ← number
      match ← peek with
      | some '~' =>
        advance 1
        let _ ← peek
        let step ← number
        return some (if step = 0 then .line n else .stepped n step)
      | _ => return some (.line n)
    else return none
  | [] => return none

def selection (extended : Bool) : Reading Selection := do
  let first ← address extended
  if first matches some (.after _) ∨ first matches some (.upToMultiple _) then
    refuse .noFirstAddress
  let sign ← peek
  let second ←
    if first.isSome ∧ sign = some ',' then
      advance 1
      let next ← peek
      match ← address extended with
      | some a => pure (some a)
      | none =>
        if next.isSome then advance 1
        refuse .unexpectedComma
    else pure none
  if first matches some (.line 0) ∧ !(second matches some (.matching _)) then
    if (← peek).isSome then advance 1
    refuse .lineZero
  if (← peek) = some '!' then
    advance 1
    if (← peek) = some '!' then
      advance 1
      refuse .repeatedNegation
    return { first, second, negated := true }
  else return { first, second }

/-- A name of a file, which takes the rest of its line. -/
def path : Reading String := do
  let _ ← peek
  let name := (← get).chars.takeWhile (· ≠ '\n')
  advance name.length
  if name.isEmpty then refuse .missingFile else return String.ofList name

/-- The options of a substitution, with the letters that are about its expression. -/
def flags (s : Substitution) (letters : List Char) :
    Nat → Reading (Substitution × List Char)
  | 0 => return (s, letters)
  | limit + 1 => do
    match (← get).chars with
    | 'g' :: _ =>
      advance 1
      if s.isGlobal then refuse (.repeatedOption (oldQuoted "g"))
      flags { s with isGlobal := true } letters limit
    | 'p' :: _ =>
      advance 1
      if s.prints then refuse (.repeatedOption (oldQuoted "p"))
      flags { s with prints := true } letters limit
    | 'w' :: _ =>
      advance 1
      checkAllowed
      return ({ s with target := some (← path) }, letters)
    | c :: _ =>
      if ['i', 'I', 'm', 'M'].contains c then
        advance 1
        flags s (c :: letters) limit
      else if c.isDigit then
        if s.number.isSome then
          advance 1
          refuse (.repeatedOption "number")
        else
          let n ← number
          if n = 0 then refuse .zeroNumber else flags { s with number := some n } letters limit
      else if isSpace c then
        advance 1
        flags s letters limit
      else if c = '\n' ∨ c = ';' then
        advance 1
        return (s, letters)
      else if c = '\x7d' ∨ c = '#' then return (s, letters)
      else
        advance 1
        refuse .unknownOption
    | [] => return (s, letters)

def substitution (extended : Bool) : Reading Verb := do
  match (← get).chars with
  | [] => refuse (.unterminated 's')
  | delimiter :: _ =>
    advance 1
    let pattern ← delimitedText 's' delimiter
    let replacement := partsOf (← plainDelimited 's' delimiter)
    let (s, letters) ← flags { pattern := none, replacement } [] ((← get).chars.length + 1)
    let pattern ← wanted extended pattern letters
    let last := replacement.foldl (fun n p => match p with | .group k => max n k | _ => n) 0
    match pattern with
    | some w => if Regex.groupCount w.regex < last then refuse (.badReference last)
    | none => pure ()
    return .substitute { s with pattern }

def characterMap : Reading Verb := do
  match (← get).chars with
  | [] => refuse (.unterminated 'y')
  | delimiter :: _ =>
    advance 1
    let rec plain : Nat → List Char → List Char
      | 0, _ => []
      | limit + 1, cs =>
        match cs with
        | '\\' :: '\\' :: rest => '\\' :: plain limit rest
        | '\\' :: rest =>
          match namedChar? rest with
          | some (c, n) => c :: plain limit (rest.drop n)
          | none => plain limit rest
        | c :: rest => c :: plain limit rest
        | [] => []
    let source ← plainDelimited 'y' delimiter
    let target ← plainDelimited 'y' delimiter
    let source := plain source.length source
    let target := plain target.length target
    if source.length ≠ target.length then refuse .unequalLengths
    else return .mapChars (source.zip target)

/-- The text behind a command that adds text. Lines that end in a backslash go on. -/
def addedText : Nat → Reading (List Char)
  | 0 => return ['\n']
  | limit + 1 => do
    match (← get).chars with
    | [] => return ['\n']
    | '\\' :: c :: _ =>
      advance 2
      return c :: (← addedText limit)
    | '\n' :: _ =>
      advance 1
      return ['\n']
    | c :: _ =>
      advance 1
      return c :: (← addedText limit)

def text : Reading (List Char) := do
  let _ ← peek
  match (← get).chars with
  | [] => refuse .expectedText
  | ['\\'] =>
    advance 1
    return []
  | '\\' :: rest =>
    match rest.dropWhile isSpace with
    | '\n' :: others => modify fun s => { s with chars := others }
    | _ => advance 1
    addedText ((← get).chars.length + 1)
  | _ => addedText ((← get).chars.length + 1)

/-- A label, which a blank or the end of the command ends. -/
def labelName : Reading String := do
  let _ ← peek
  let ends := fun (c : Char) => c = '\n' || c = ';' || c = '\x7d' || isSpace c
  let name := (← get).chars.takeWhile fun c => !ends c
  advance name.length
  return String.ofList name

def commandEnd : Reading Unit := do
  match ← peek with
  | none => return ()
  | some c =>
    if c = ';' ∨ c = '\n' then advance 1
    else if c = '\x7d' ∨ c = '#' then return ()
    else
      advance 1
      refuse .extraCharacters

/-- A number behind a command, if there is one. -/
def countBehind : Reading (Option Nat) := do
  match ← peek with
  | some c => if c.isDigit then return some (← number) else return none
  | none => return none

def simpleVerb? (c : Char) : Option Verb :=
  match c with
  | 'd' => some .delete
  | 'D' => some .deleteFirst
  | 'p' => some .print
  | 'P' => some .printFirst
  | '=' => some .number
  | 'F' => some .fileName
  | 'n' => some .next
  | 'N' => some .joinNext
  | 'h' => some .hold
  | 'H' => some .holdMore
  | 'g' => some .bring
  | 'G' => some .bringMore
  | 'x' => some .exchange
  | 'z' => some .clear
  | _ => none

/-- The verb that a letter stands for, up to its end. -/
def verb (extended : Bool) (sel : Selection) (c : Char) : Reading Verb := do
  match c with
  | 's' => substitution extended
  | 'y' =>
    let v ← characterMap
    commandEnd
    return v
  | 'q' =>
    if sel.second.isSome then refuse .oneAddress
    let status ← countBehind
    commandEnd
    return .quit (status.getD 0) true
  | 'Q' =>
    if sel.second.isSome then refuse .oneAddress
    let status ← countBehind
    commandEnd
    return .quit (status.getD 0) false
  | 'l' =>
    let width ← countBehind
    commandEnd
    return .display width
  | 'a' => return .append (← text)
  | 'i' => return .insert (← text)
  | 'c' => return .change (← text)
  | 'r' =>
    checkAllowed
    return .readFile (← path)
  | 'R' =>
    checkAllowed
    return .readLine (← path)
  | 'w' =>
    checkAllowed
    return .writeLine (← path)
  | 'W' =>
    checkAllowed
    return .writeFirst (← path)
  | 'b' => return .branch (← labelName)
  | 't' => return .branchIf true (← labelName)
  | 'T' => return .branchIf false (← labelName)
  | ':' =>
    if sel.first.isSome then refuse .addressOfLabel
    let name ← labelName
    if name.isEmpty then refuse .emptyLabel else return .label name
  | c =>
    match simpleVerb? c with
    | some v =>
      commandEnd
      return v
    | none => refuse (.unknownCommand c)

/-- The version of the language that scripts can ask for at most. -/
def version : List Nat := [4, 9]

def checkVersion : Reading Unit := do
  let name ← labelName
  let wanted := (splitAtSeparator '.' name.toList).map (Numeral.ofDigits 10)
  if compareOfLessAndEq version wanted = .lt ∧ !name.isEmpty then refuse .newerVersion

def add (i : Instruction) : Reading Unit := modify fun s => { s with done := s.done ++ [i] }

def instructions (extended : Bool) : Nat → Reading Unit
  | 0 => return ()
  | limit + 1 => do
    skipWhile fun c => isSpace c || c = '\n' || c = ';'
    if (← get).chars.isEmpty then return ()
    else
      let sel ← selection extended
      match (← get).chars with
      | [] => refuse .missingCommand
      | '#' :: _ =>
        if sel.first.isSome then
          advance 1
          refuse .addressOfComment
        skipWhile (· ≠ '\n')
        instructions extended limit
      | '\x7b' :: _ =>
        advance 1
        let here := (← get).done.length
        add { selection := { sel with negated := !sel.negated }, verb := .skip 0 }
        modify fun s => { s with blocks := (here, s.chars.length) :: s.blocks }
        instructions extended limit
      | '\x7d' :: _ =>
        advance 1
        match (← get).blocks with
        | [] => refuse .unexpectedClose
        | (start, _) :: others =>
          if sel.first.isSome then refuse .addressOfClose
          modify fun s =>
            let close := fun (i : Instruction) => { i with verb := .skip s.done.length }
            { s with blocks := others, done := s.done.modify start close }
          commandEnd
          instructions extended limit
      | 'v' :: _ =>
        advance 1
        checkVersion
        instructions extended limit
      | c :: _ =>
        advance 1
        add { selection := sel, verb := ← verb extended sel c }
        instructions extended limit

/-- The script of a text; a fault comes with how many characters were read. -/
def scriptOf? (extended isConfined : Bool) (text : List Char) :
    Except (Fault × Nat) (List Instruction) := do
  match (instructions extended (text.length + 1)).run { chars := text, isConfined } with
  | .error (f, left) => throw (f, text.length - left)
  | .ok ((), s) =>
    match s.blocks with
    | (_, left) :: _ => throw (.unmatchedOpen, text.length - left)
    | [] => return s.done

def missingLabel? (program : List Instruction) : Option String :=
  let labels := program.filterMap fun i =>
    match i.verb with
    | .label n => some n
    | _ => none
  let wanted := program.filterMap fun i =>
    match i.verb with
    | .branch n => some n
    | .branchIf _ n => some n
    | _ => none
  wanted.find? fun n => !n.isEmpty && !labels.contains n

end WasmBundle.Shell.Editing
