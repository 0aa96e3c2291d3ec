import WasmBundle.Shell.Decimal
import WasmBundle.Shell.Octets

/-!
# Tokens of programs of actions

The parts that the text of a program of patterns and actions is made of. Where a line may go on in
the next one, the ends of lines are left out. Signs that close what was never opened are told of
and left out too.
-/

namespace WasmBundle.Shell.Actions

inductive Token where
  | number (text : String)
  | text (s : String)
  | regex (s : String)
  | name (s : String)
  /-- A name with an opening parenthesis right behind it. -/
  | caller (s : String)
  /-- A word of the notation. -/
  | word (s : String)
  | builtin (s : String)
  | sign (s : String)
  | lineEnd
  | finish
  /-- What is no token, with what is told of it. -/
  | broken (message : String)
  deriving DecidableEq, Repr

def Token.shown : Token → String
  | .number t => t
  | .text s => s
  | .regex s => "/" ++ s ++ "/"
  | .name s => s
  | .caller s => s
  | .word s => s
  | .builtin s => s
  | .sign s => s
  | .lineEnd => "end of line"
  | .finish => "end of file"
  | .broken m => m

structure Placed where
  token : Token
  line : Nat
  /-- How many parentheses are open behind it. -/
  parens : Nat
  /-- How many braces are. -/
  braces : Nat
  /-- What is told before it. -/
  told : List String
  deriving Repr

def words : List String :=
  ["BEGIN", "END", "function", "if", "else", "while", "for", "do", "break", "continue", "next",
    "nextfile", "exit", "return", "print", "printf", "getline", "delete", "in"]

def builtinNames : List String :=
  ["length", "index", "substr", "sprintf", "sin", "cos", "atan2", "exp", "log", "int", "sqrt",
    "rand", "srand", "close", "system", "toupper", "tolower", "fflush", "match", "split", "sub",
    "gsub", "systime", "strftime", "mktime"]

structure Scan where
  line : Nat := 1
  parens : Nat := 0
  braces : Nat := 0
  last : Option Token := none
  told : List String := []

/-- Skips blanks, with lines that go on, and comments; the number of lines is kept. With `lines`
set, ends of lines are skipped too. -/
def skipFrom (lines : Bool) : Bool → Nat → List Char → Nat × List Char
  | _, line, [] => (line, [])
  | true, line, '\n' :: rest =>
    if lines then skipFrom lines false (line + 1) rest else (line, '\n' :: rest)
  | true, line, _ :: rest => skipFrom lines true line rest
  | false, line, '\\' :: '\n' :: rest => skipFrom lines false (line + 1) rest
  | false, line, '\n' :: rest =>
    if lines then skipFrom lines false (line + 1) rest else (line, '\n' :: rest)
  | false, line, '#' :: rest => skipFrom lines true line rest
  | false, line, c :: rest =>
    if c = ' ' ∨ c = '\t' ∨ (11 ≤ c.toNat ∧ c.toNat ≤ 13) then skipFrom lines false line rest
    else (line, c :: rest)

def skip (lines : Bool) (line : Nat) (cs : List Char) : Nat × List Char :=
  skipFrom lines false line cs

def isHex (c : Char) : Bool := Numeral.isDigitOf 16 c

/-- The value of an escape behind its backslash, and what follows it. An escape without a meaning
stays as it is. -/
def escaped : List Char → List Char × List Char
  | [] => (['\\'], [])
  | c :: rest =>
    match c with
    | '"' => (['"'], rest)
    | '\\' => (['\\'], rest)
    | 'a' => ([Char.ofNat 7], rest)
    | 'b' => ([Char.ofNat 8], rest)
    | 'f' => ([Char.ofNat 12], rest)
    | 'n' => (['\n'], rest)
    | 'r' => (['\r'], rest)
    | 't' => (['\t'], rest)
    | 'v' => ([Char.ofNat 11], rest)
    | 'x' =>
      let ds := (rest.takeWhile isHex).take 2
      if ds.isEmpty then (['\\', 'x'], rest)
      else ([Char.ofNat (Numeral.ofDigits 16 ds)], rest.drop ds.length)
    | _ =>
      let ds := ((c :: rest).takeWhile (Numeral.isDigitOf 8)).take 3
      if ds.isEmpty then (['\\', c], rest)
      else ([Char.ofNat (Numeral.ofDigits 8 ds % 256)], (c :: rest).drop ds.length)

def unescapedUpTo : Nat → List Char → List Char
  | 0, _ => []
  | _, [] => []
  | limit + 1, '\\' :: rest =>
    let (e, after) := escaped rest
    e ++ unescapedUpTo limit after
  | limit + 1, c :: rest => c :: unescapedUpTo limit rest

def unescaped (cs : List Char) : List Char := unescapedUpTo cs.length cs

/-- The text up to a quotation mark on the same line, as it is written, and what follows it. -/
def quotedPart? : List Char → Option (List Char × List Char)
  | [] => none
  | '\n' :: _ => none
  | '"' :: rest => some ([], rest)
  | '\\' :: '\n' :: rest => quotedPart? rest
  | '\\' :: c :: rest => (quotedPart? rest).map fun (a, b) => ('\\' :: c :: a, b)
  | c :: rest => (quotedPart? rest).map fun (a, b) => (c :: a, b)

/-- The expression up to a slash on the same line that is in no bracket, and what follows it. -/
def regexPart? (inBracket : Bool) : List Char → Option (List Char × List Char)
  | [] => none
  | '\n' :: _ => none
  | '\\' :: '/' :: rest => (regexPart? inBracket rest).map fun (a, b) => ('/' :: a, b)
  | '\\' :: c :: rest => (regexPart? inBracket rest).map fun (a, b) => ('\\' :: c :: a, b)
  | '[' :: '^' :: ']' :: rest =>
    let isInside := !inBracket
    (regexPart? isInside rest).map fun (a, b) => ('[' :: '^' :: ']' :: a, b)
  | '[' :: ']' :: rest =>
    let isInside := !inBracket
    (regexPart? isInside rest).map fun (a, b) => ('[' :: ']' :: a, b)
  | c :: rest =>
    if c = '/' ∧ !inBracket then some ([], rest)
    else
      let isInside := (inBracket || c == '[') && c != ']'
      (regexPart? isInside rest).map fun (a, b) => (c :: a, b)

/-- A number at the start of a text, and what follows it. -/
def numberPart? (cs : List Char) : Option (String × List Char) := do
  let (_, _, rest) ← Decimal.pointedDigits? 10 cs
  let (_, after) := Decimal.exponentAt 'e' rest
  return (String.ofList (cs.take (cs.length - after.length)), after)

def longSigns : List String :=
  ["&&", "||", "==", "!=", "!~", "<=", ">=", ">>", "+=", "-=", "*=", "%=", "^=", "++", "--"]

def shortSigns : List Char := "!=<>+-*%^~?:,;()[]$|\x7b\x7d".toList

def precedesDivision : Option Token → Bool
  | some (.number _) => true
  | some (.text _) => true
  | some (.regex _) => true
  | some (.name _) => true
  | some (.word w) => w == "getline"
  | some (.sign s) => [")", "]", "++", "--"].contains s
  | _ => false

/-- Whether lines may end behind a token without a meaning. -/
def goesOn : Token → Bool
  | .sign s => ["\x7b", "\x7d", ";", ",", "&&", "||"].contains s
  | .word w => w == "do" || w == "else"
  | .lineEnd => true
  | _ => false

/-- The token at the start of a text, and what follows it. -/
def tokenAt (last : Option Token) (line : Nat) (cs : List Char) : Token × List Char :=
  match cs with
  | [] => (.finish, [])
  | '\n' :: rest => (.lineEnd, rest)
  | '"' :: rest =>
    match quotedPart? rest with
    | some (part, after) => (.text (String.ofList (unescaped part)), after)
    | none =>
      let part := String.ofList ((rest.takeWhile (· ≠ '\n')).take 10)
      (.broken ("line " ++ toString line ++ ": runaway string constant \"" ++ part ++ " ..."), [])
  | '$' :: rest =>
    match rest.head?.filter Char.isDigit, numberPart? rest with
    | some _, some (text, _) =>
      if text.toList.contains '.' then
        (.broken ("line " ++ toString line ++ ": $" ++ text ++ " is invalid field index"), [])
      else (.sign "$", rest)
    | _, _ => (.sign "$", rest)
  | c :: rest =>
    if c = '/' then
      if precedesDivision last then
        match rest with
        | '=' :: after => (.sign "/=", after)
        | _ => (.sign "/", rest)
      else
        match regexPart? false rest with
        | some (part, after) => (.regex (String.ofList part), after)
        | none =>
          let part := String.ofList ((rest.takeWhile (· ≠ '\n')).take 10)
          (.broken ("line " ++ toString line ++ ": runaway regular expression /" ++ part ++
            " ..."), [])
    else if isNameStart c then
      let name := cs.takeWhile isNameChar
      let after := cs.drop name.length
      let text := String.ofList name
      if words.contains text then (.word text, after)
      else if builtinNames.contains text then (.builtin text, after)
      else if after.head? = some '(' then (.caller text, after)
      else (.name text, after)
    else
      let two := String.ofList (cs.take 2)
      match numberPart? cs with
      | some (text, after) => (.number text, after)
      | none =>
        if longSigns.contains two then (.sign two, cs.drop 2)
        else if shortSigns.contains c then (.sign (String.ofList [c]), rest)
        else
          (.broken (toString line ++ ": unexpected character " ++ quoted (String.ofList [c])), [])

/-- What is behind blanks and one semicolon, if there is one. -/
def withoutSemicolon (line : Nat) (cs : List Char) : Nat × List Char :=
  match skip false line cs with
  | (n, ';' :: rest) => (n, rest)
  | other => other

/-- The tokens of a text, from a state on. -/
def tokensFrom : Nat → Scan → List Char → List Placed
  | 0, _, _ => []
  | limit + 1, s, cs =>
    let (line, cs) := skip false s.line cs
    let extra := fun (sign : String) =>
      s.told ++ ["line " ++ toString line ++ ": extra " ++ quoted sign]
    let (t, rest) := tokenAt s.last line cs
    let place := fun (x : Scan) =>
      { token := t, line, parens := x.parens, braces := x.braces, told := s.told : Placed }
    let goOn := fun (x : Scan) (rest : List Char) =>
      let start := if t = .lineEnd then line + 1 else line
      let (next, rest) := if goesOn t then skip true start rest else (start, rest)
      place x :: tokensFrom limit { x with line := next, last := some t, told := [] } rest
    let s := { s with line := line }
    match t with
    | .finish => [place s]
    | .broken _ => [place s]
    | .sign "(" => goOn { s with parens := s.parens + 1 } rest
    | .sign ")" =>
      if s.parens = 0 then tokensFrom limit { s with told := extra ")" } rest
      else goOn { s with parens := s.parens - 1 } rest
    | .sign "\x7b" => goOn { s with braces := s.braces + 1 } rest
    | .sign "\x7d" =>
      if s.braces = 0 then
        let (n, rest) := withoutSemicolon line rest
        tokensFrom limit { s with line := n, told := extra "\x7d" } rest
      else if s.braces = 1 then
        let (n, rest) := withoutSemicolon line rest
        goOn { s with braces := 0, line := n } rest
      else goOn { s with braces := s.braces - 1 } rest
    | _ => goOn s rest

/-- The tokens of a text; the last one is that of its end. -/
def tokensOf (text : String) : List Placed :=
  let closed := text.toList ++ ['\n']
  let (line, start) := skip true 1 closed
  tokensFrom (closed.length + 2) { line } start

end WasmBundle.Shell.Actions
