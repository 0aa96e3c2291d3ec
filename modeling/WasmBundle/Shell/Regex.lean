import WasmBundle.Shell.Numeral
import WasmBundle.Shell.Pattern

/-!
# Regular expressions

The expressions of the tools that search and edit lines, in the basic and in the extended notation.
Of the matches that start leftmost the longest counts.
-/

namespace WasmBundle.Shell

inductive Regex where
  | empty
  | one (piece : Piece)
  /-- The start of a line. -/
  | start
  /-- The end of a line. -/
  | finish
  | textStart
  | textEnd
  /-- The edge of a word, or with `inside` set no edge. -/
  | edge (inside : Bool)
  | wordStart
  | wordEnd
  | group (number : Nat) (body : Regex)
  /-- What a group stands for, once more. -/
  | again (number : Nat)
  | both (first second : Regex)
  | either (first second : Regex)
  | repeated (body : Regex) (least : Nat) (most : Option Nat)
  deriving DecidableEq, Repr

namespace Regex

/-- A match up to a place in a text, with the places of its groups, the last one first. -/
structure Found where
  place : Nat
  groups : List (Nat × Nat × Nat) := []
  deriving DecidableEq, Repr

structure Subject where
  text : Array Char
  ignoresCase : Bool := false
  /-- Whether lines start and end within the text too. -/
  hasLines : Bool := false

def Subject.isWord (s : Subject) (i : Nat) : Bool :=
  s.text[i]?.any fun c => c.isAlphanum || c = '_'

def Subject.beforeIsWord (s : Subject) (i : Nat) : Bool := i > 0 && s.isWord (i - 1)

def Subject.startsLine (s : Subject) (i : Nat) : Bool :=
  i == 0 || (s.hasLines && s.text[i - 1]? == some '\n')

def Subject.endsLine (s : Subject) (i : Nat) : Bool :=
  i == s.text.size || (s.hasLines && s.text[i]? == some '\n')

def otherCase (c : Char) : Char := if c.isUpper then c.toLower else c.toUpper

def Subject.accepts (s : Subject) (p : Piece) (c : Char) : Bool :=
  match p with
  | .oneOf negated l =>
    let isMember := l.any (Member.holds c) || (s.ignoresCase && l.any (Member.holds (otherCase c)))
    isMember != negated
  | _ => Pattern.accepts p c || (s.ignoresCase && Pattern.accepts p (otherCase c))

def refers : Regex → Bool
  | .again _ => true
  | .group _ body => refers body
  | .both a b => refers a || refers b
  | .either a b => refers a || refers b
  | .repeated body _ _ => refers body
  | _ => false

/-- Of the matches that end at one place only the first, unless all are wanted. -/
def thinned (keepsAll : Bool) (l : List Found) : List Found :=
  if keepsAll then l
  else
    (l.foldl (fun (kept : List Found) m =>
      if kept.any fun k => k.place == m.place then kept else m :: kept) []).reverse

/-- Every way to repeat a step on from some matches, the longest first. A repetition beyond the
least count must get ahead. -/
def repeats (keepsAll : Bool) (step : Found → List Found) (least : Nat) (most : Option Nat) :
    Nat → Nat → List Found → List Found
  | 0, count, l => if least ≤ count then l else []
  | limit + 1, count, l =>
    let here := if least ≤ count then l else []
    if l.isEmpty || most.any (· ≤ count) then here
    else
      let next := l.flatMap fun m =>
        (step m).filter fun n => m.place < n.place || count < least
      repeats keepsAll step least most limit (count + 1) (thinned keepsAll next) ++ here

/-- Every way to match from a place on. If not all are wanted, it is one for each place where a
match can end. -/
def ways (keepsAll : Bool) (s : Subject) : Regex → Found → List Found
  | .empty, m => [m]
  | .one p, m =>
    match s.text[m.place]? with
    | some c => if s.accepts p c then [{ m with place := m.place + 1 }] else []
    | none => []
  | .start, m => if s.startsLine m.place then [m] else []
  | .finish, m => if s.endsLine m.place then [m] else []
  | .textStart, m => if m.place = 0 then [m] else []
  | .textEnd, m => if m.place = s.text.size then [m] else []
  | .edge inside, m =>
    if (s.beforeIsWord m.place != s.isWord m.place) != inside then [m] else []
  | .wordStart, m => if !s.beforeIsWord m.place && s.isWord m.place then [m] else []
  | .wordEnd, m => if s.beforeIsWord m.place && !s.isWord m.place then [m] else []
  | .group n body, m =>
    (ways keepsAll s body m).map fun e =>
      { e with groups := (n, m.place, e.place) :: e.groups }
  | .again n, m =>
    match m.groups.lookup n with
    | none => []
    | some (a, b) =>
      let part := (s.text.extract a b).toList
      let there := (s.text.extract m.place (m.place + part.length)).toList
      let plain := fun (cs : List Char) => if s.ignoresCase then cs.map Char.toUpper else cs
      if plain there = plain part then [{ m with place := m.place + part.length }] else []
  | .both a b, m => thinned keepsAll ((ways keepsAll s a m).flatMap (ways keepsAll s b))
  | .either a b, m => thinned keepsAll (ways keepsAll s a m ++ ways keepsAll s b m)
  | .repeated body least most, m =>
    thinned keepsAll (repeats keepsAll (ways keepsAll s body) least most
      (s.text.size + least + 1) 0 [m])

def matchesFrom (s : Subject) (r : Regex) (m : Found) : List Found := ways (refers r) s r m

/-- The longest of some matches, the first one of those that are. -/
def longest : List Found → Option Found
  | [] => none
  | m :: rest =>
    match longest rest with
    | some n => if m.place < n.place then some n else some m
    | none => some m

/-- The leftmost longest match that starts at a place or behind it. -/
def searchFrom (s : Subject) (r : Regex) : Nat → Nat → Option (Nat × Found)
  | 0, _ => none
  | limit + 1, place =>
    match longest (matchesFrom s r { place }) with
    | some m => some (place, m)
    | none => searchFrom s r limit (place + 1)

def search (s : Subject) (r : Regex) (place : Nat) : Option (Nat × Found) :=
  searchFrom s r (s.text.size + 1 - place) place

def groupCount : Regex → Nat
  | .group n body => max n (groupCount body)
  | .both a b => max (groupCount a) (groupCount b)
  | .either a b => max (groupCount a) (groupCount b)
  | .repeated body _ _ => groupCount body
  | _ => 0

/-- How expressions are written, and how much of what makes no sense is let through. -/
structure Notation where
  extended : Bool := false
  /-- Whether signs where they mean nothing stand for themselves or for nothing. -/
  lenient : Bool := true
  /-- Whether a repetition can be repeated in the basic notation. -/
  repeatsTwice : Bool := true
  /-- Whether brackets are looked at for ranges and classes that make no sense. -/
  checksBrackets : Bool := false
  /-- Whether anchors can be repeated. -/
  repeatsAnchors : Bool := false
  /-- Whether signs of repetition stand alone in the basic notation, which then has no counts. -/
  bareSigns : Bool := false
  deriving DecidableEq, Repr

def Notation.searching (extended : Bool) : Notation :=
  { extended, checksBrackets := true, repeatsAnchors := true }

def Notation.plain : Notation := { bareSigns := true }

def Notation.editing (extended : Bool) : Notation :=
  { extended, lenient := false, repeatsTwice := extended, checksBrackets := true }

inductive Fault where
  | openGroup
  | closedGroup
  | openBracket
  | emptyBracket
  | badClass
  | bareClass
  | badCollation
  | badRange
  | openInterval
  | badInterval
  | tooBig
  | badRepetition
  | trailingBackslash
  | missingGroup
  deriving DecidableEq, Repr

def Fault.message : Fault → String
  | .openGroup => "Unmatched ( or \\("
  | .closedGroup => "Unmatched ) or \\)"
  | .openBracket => "Unmatched [, [^, [:, [., or [="
  | .emptyBracket => "Invalid regular expression"
  | .badClass => "Invalid character class name"
  | .bareClass => "character class syntax is [[:space:]], not [:space:]"
  | .badCollation => "Invalid collation character"
  | .badRange => "Invalid range end"
  | .openInterval => "Unmatched \\\x7b"
  | .badInterval => "Invalid content of \\\x7b\\\x7d"
  | .tooBig => "Regular expression too big"
  | .badRepetition => "Invalid preceding regular expression"
  | .trailingBackslash => "Trailing backslash"
  | .missingGroup => "Invalid back reference"

/-- What is left of an expression, and how many groups were opened and closed. -/
structure Rest where
  chars : List Char
  groups : Nat := 0
  closed : Nat := 0
  /-- The signs of repetitions that have nothing to repeat and were left out. -/
  bareSigns : List Char := []

abbrev Reading := StateT Rest (Except Fault)

def refuse {α : Type} (f : Fault) : Reading α := StateT.lift (.error f)

def advance (n : Nat) : Reading Unit := modify fun s => { s with chars := s.chars.drop n }

/-- A special sign and how long it is. In the basic notation some signs are special behind a
backslash, in the extended one without it. -/
def signAt (n : Notation) (cs : List Char) : Option (Char × Nat) :=
  let repeating := ['+', '?']
  let movable := ['(', ')', '|'] ++ if n.bareSigns then [] else ['\x7b', '\x7d'] ++ repeating
  let alone := '*' :: if n.extended then movable else if n.bareSigns then repeating else []
  match cs with
  | '\\' :: c :: _ => if !n.extended ∧ movable.contains c then some (c, 2) else none
  | c :: _ => if alone.contains c then some (c, 1) else none
  | [] => none

def classNames : List String :=
  ["alpha", "digit", "alnum", "upper", "lower", "space", "blank", "punct", "cntrl", "print",
    "graph", "xdigit"]

inductive Item where
  | char (c : Char)
  | named (name : String)
  deriving DecidableEq, Repr

/-- The text behind an inner bracket of some kind up to its end, and what follows it. -/
def innerText? (sign : Char) : List Char → Option (List Char × List Char)
  | a :: b :: rest =>
    if a = sign ∧ b = ']' then some ([], rest)
    else (innerText? sign (b :: rest)).map fun r => (a :: r.1, r.2)
  | _ => none

/-- The item at the start of what is left of a bracket, and what follows it. -/
def item (cs : List Char) : Except Fault (Item × List Char) :=
  match cs with
  | [] => .error .openBracket
  | '[' :: sign :: rest =>
    if sign = ':' ∨ sign = '.' ∨ sign = '=' then
      match innerText? sign rest with
      | none => .error .openBracket
      | some (text, after) =>
        match text with
        | [c] => if sign = ':' then .error .badClass else .ok (.char c, after)
        | _ =>
          let name := String.ofList text
          if sign ≠ ':' then .error .badCollation
          else if classNames.contains name then .ok (.named name, after)
          else .error .badClass
    else .ok (.char '[', sign :: rest)
  | c :: rest => .ok (.char c, rest)

/-- The members of a bracket up to its end, and what follows it. -/
def members (checks : Bool) : Nat → Bool → List Char → Except Fault (List Member × List Char)
  | 0, _, _ => .error .openBracket
  | limit + 1, isFirst, cs => do
    match cs, isFirst with
    | ']' :: rest, false => return ([], rest)
    | _, _ =>
      let (first, rest) ← item cs
      match rest with
      | '-' :: last :: more =>
        if last = ']' then
          let (others, after) ← members checks limit false rest
          return (member first :: others, after)
        else
          let (second, rest) ← item (last :: more)
          match first, second with
          | .char a, .char b =>
            if checks ∧ b < a then throw .badRange
            else
              let (others, after) ← members checks limit false rest
              return (.range a b :: others, after)
          | _, _ => throw .badRange
      | _ =>
        let (others, after) ← members checks limit false rest
        return (member first :: others, after)
where
  member : Item → Member
    | .char c => .range c c
    | .named name => .named name

/-- Whether a bracket looks like the name of a class without brackets of its own. -/
def isBareClass (l : List Member) : Bool :=
  let isColon := fun (m : Member) => m == .range ':' ':'
  let isChar := fun (m : Member) =>
    match m with
    | .range a b => a == b
    | .named _ => false
  l.head?.any isColon && l.getLast?.any isColon && l.all isChar && l.any fun m => !isColon m

def bracket (n : Notation) : Reading Regex := do
  let cs := (← get).chars
  let negated := cs.head? = some '^'
  let cs := if negated then cs.drop 1 else cs
  if cs.isEmpty then refuse .emptyBracket
  else
    let (l, after) ← StateT.lift (members n.checksBrackets (cs.length + 1) true cs)
    if n.checksBrackets ∧ isBareClass l then refuse .bareClass
    else
      modify fun s => { s with chars := after }
      return .one (.oneOf negated l)

def wordMembers : List Member := [.named "alnum", .range '_' '_']

def escaped (groups : Nat) (c : Char) : Except Fault Regex :=
  match c with
  | 'w' => .ok (.one (.oneOf false wordMembers))
  | 'W' => .ok (.one (.oneOf true wordMembers))
  | 's' => .ok (.one (.oneOf false [.named "space"]))
  | 'S' => .ok (.one (.oneOf true [.named "space"]))
  | 'b' => .ok (.edge false)
  | 'B' => .ok (.edge true)
  | '<' => .ok .wordStart
  | '>' => .ok .wordEnd
  | _ =>
    if '1' ≤ c ∧ c ≤ '9' then
      let n := c.toNat - '0'.toNat
      if n ≤ groups then .ok (.again n) else .error .missingGroup
    else if c = graveAccent then .ok .textStart
    else if c = apostrophe then .ok .textEnd
    else .ok (.one (.exactly c))

def isAnchor : Regex → Bool
  | .start => true
  | .finish => true
  | .textStart => true
  | .textEnd => true
  | .edge _ => true
  | .wordStart => true
  | .wordEnd => true
  | _ => false

def greatestCount : Nat := 32767

/-- The counts of an interval behind its opening sign, and what follows it. -/
def interval? (n : Notation) (cs : List Char) :
    Except Fault ((Nat × Option Nat) × List Char) := do
  let a := cs.takeWhile Char.isDigit
  let rest := cs.drop a.length
  let least := Numeral.ofDigits 10 a
  let (most, rest) :=
    match rest with
    | ',' :: more =>
      let b := more.takeWhile Char.isDigit
      (if b.isEmpty then none else some (Numeral.ofDigits 10 b), more.drop b.length)
    | _ => (some least, rest)
  if a.isEmpty ∧ cs.head? ≠ some ',' then
    throw (if cs.isEmpty then .openInterval else .badInterval)
  match signAt n rest with
  | some ('\x7d', k) =>
    if most.any (· < least) then throw .badInterval
    else if greatestCount < most.getD least then throw .tooBig
    else return ((least, most), rest.drop k)
  | _ => throw (if rest.isEmpty then .openInterval else .badInterval)

/-- The counts of a repetition that comes next, if one does, and what follows it. -/
def repetition? (n : Notation) (cs : List Char) :
    Except Fault (Option ((Nat × Option Nat) × List Char)) :=
  match signAt n cs with
  | some ('*', k) => .ok (some ((0, none), cs.drop k))
  | some ('+', k) => .ok (some ((1, none), cs.drop k))
  | some ('?', k) => .ok (some ((0, some 1), cs.drop k))
  | some ('\x7b', k) =>
    match interval? n (cs.drop k) with
    | .ok found => .ok (some found)
    | .error .tooBig => .error .tooBig
    | .error f =>
      let isReversed := f = .badInterval ∧ (cs.drop k).any (· = ',') ∧
        (cs.drop k).head?.any Char.isDigit ∧
        ((cs.drop k).dropWhile fun c => c.isDigit ∨ c = ',').head? = some '\x7d'
      if n.extended ∧ n.lenient ∧ !isReversed then .ok none else .error f
  | _ => .ok none

/-- An expression with the repetitions that follow it. -/
def postfixes (n : Notation) : Nat → Bool → Regex → Reading Regex
  | 0, _, r => return r
  | limit + 1, isRepeated, r => do
    let cs := (← get).chars
    match ← StateT.lift (repetition? n cs) with
    | none => return r
    | some ((least, most), rest) =>
      let canFail := !n.extended && !n.repeatsTwice
      let sign := (signAt n cs).map (·.1)
      if isRepeated ∧ canFail ∧ (sign = some '*' ∨ sign = some '\x7b') then refuse .badRepetition
      else
        modify fun s => { s with chars := rest }
        postfixes n limit true (.repeated r least most)

/-- What was read with the repetitions behind it, which anchors take only in some notations. -/
def behind (n : Notation) (limit : Nat) (a : Regex) : Reading Regex := do
  if a = .empty ∨ (isAnchor a ∧ !n.repeatsAnchors) ∨ (a = .start ∧ !n.extended) then return a
  else
    match a, repetition? n (← get).chars, signAt n (← get).chars with
    | .start, .ok (some _), some (sign, _) =>
      modify fun s => { s with bareSigns := s.bareSigns ++ [sign] }
    | _, _, _ => pure ()
    postfixes n limit false a

/-- A sign of repetition with nothing before it to be repeated. -/
def bareRepetition (n : Notation) (sign : Char) (length : Nat) : Reading Regex := do
  if n.extended then
    if !n.lenient then refuse .badRepetition
    else
      match ← StateT.lift (repetition? n (← get).chars) with
      | some (_, rest) =>
        modify fun s => { s with chars := rest, bareSigns := s.bareSigns ++ [sign] }
        return .empty
      | none =>
        advance length
        return .one (.exactly sign)
  else if sign = '\x7b' ∧ !n.lenient ∧ !n.repeatsTwice then refuse .badRepetition
  else
    advance length
    return .one (.exactly sign)

/-- An expression that is not repeated. `inner` reads what stands in a group, `isFirst` says that
nothing stands before it. -/
def atom (n : Notation) (inner : Reading Regex) (isFirst : Bool) : Reading Regex := do
  let s ← get
  match signAt n s.chars, s.chars with
  | some ('(', k), _ =>
    modify fun s => { s with chars := s.chars.drop k, groups := s.groups + 1 }
    let body ← inner
    match signAt n (← get).chars with
    | some (')', m) =>
      modify fun s => { s with chars := s.chars.drop m, closed := s.closed + 1 }
      return .group (s.groups + 1) body
    | _ => refuse .openGroup
  | some (sign, k), _ =>
    if sign = ')' ∨ sign = '\x7d' ∨ sign = '|' then
      advance k
      return .one (.exactly sign)
    else bareRepetition n sign k
  | _, '[' :: _ =>
    advance 1
    bracket n
  | _, '.' :: _ =>
    advance 1
    return .one .anyOne
  | _, '\\' :: c :: _ =>
    advance 2
    StateT.lift (escaped s.closed c)
  | _, ['\\'] => refuse .trailingBackslash
  | _, '^' :: _ =>
    advance 1
    return if n.extended ∨ isFirst then .start else .one (.exactly '^')
  | _, '$' :: rest =>
    advance 1
    let ends := rest.isEmpty || (signAt n rest).any fun g => g.1 = ')' || g.1 = '|'
    return if n.extended ∨ ends then .finish else .one (.exactly '$')
  | _, c :: _ =>
    advance 1
    return .one (.exactly c)
  | _, [] => return .empty

/-- Whether a group ends here, or alternatives do. -/
def endsSequence (n : Notation) (s : Rest) : Bool :=
  match signAt n s.chars with
  | some (')', _) => !(n.extended && n.lenient && s.groups == s.closed)
  | some ('|', _) => true
  | _ => s.chars.isEmpty

def sequence (n : Notation) (inner : Reading Regex) : Nat → Bool → Reading Regex
  | 0, _ => return .empty
  | limit + 1, isFirst => do
    let s ← get
    if endsSequence n s then return .empty
    else
      let a ← atom n inner isFirst
      let a ← behind n s.chars.length a
      let rest ← sequence n inner limit false
      return if rest = .empty then a else .both a rest

def alternatives (n : Notation) : Nat → Reading Regex
  | 0 => return .empty
  | limit + 1 => do
    let a ← sequence n (alternatives n limit) (limit + 1) true
    match signAt n (← get).chars with
    | some ('|', k) =>
      advance k
      return .either a (← alternatives n limit)
    | _ => return a

/-- The expression that a text denotes, and the signs in it that repeat nothing. -/
def readText? (n : Notation) (text : List Char) : Except Fault (Regex × List Char) := do
  let (r, left) ← (alternatives n (text.length + 1)).run { chars := text }
  if left.chars.isEmpty then return (r, left.bareSigns) else throw .closedGroup

def ofText? (n : Notation) (text : List Char) : Except Fault Regex := (readText? n text).map (·.1)

def literally (text : List Char) : Regex :=
  text.foldr (fun c r => .both (.one (.exactly c)) r) .empty

end Regex

end WasmBundle.Shell
