import WasmBundle.Shell.Cursor

/-!
# Words

Readers of words: literal text with its quotes, parameters with their uses, substituted commands
and arithmetic. What can stand inside of them is read by readers that are passed in, so that one
level is described at a time.
-/

namespace WasmBundle.Shell.Reading

inductive Nest where
  /-- Braces; the text in them may be quoted from outside. -/
  | braces (quoted : Bool)
  /-- The double parentheses of arithmetic. -/
  | arithmetic
  deriving DecidableEq, Repr

structure Inner where
  /-- Commands up to the end of the text. -/
  script : Reading Command
  /-- Commands up to a closing parenthesis, with it. -/
  enclosed : Reading Command
  nested : Nest → Reading Word

def isSpecialParameter (c : Char) : Bool :=
  c.isDigit ∨ c ∈ ['!', '#', '$', '*', '-', '?', '@']

def isBreak (c : Char) : Bool := isSpace c ∨ c ∈ ['\n', ';', '&', '|', '<', '>', '(', ')']

/-- Characters that are more than themselves outside of quotes. -/
def isActive (c : Char) : Bool :=
  c = apostrophe ∨ c = graveAccent ∨ c ∈ ['"', '\\', '$', '\x7d']

/-- The use behind the name of a parameter, and whether the closing brace came with it. -/
def use : Reading (Use × Bool) := do
  match ← next? with
  | some '\x7d' => return (.value, true)
  | some ':' =>
    match ← next? with
    | some '-' => return (.fallback true, false)
    | some '=' => return (.assign true, false)
    | some '?' => return (.demand true, false)
    | some '+' => return (.replace true, false)
    | some '\x7d' => return (.value, false)
    | _ => return (.malformed, false)
  | some '-' => return (.fallback false, false)
  | some '=' => return (.assign false, false)
  | some '?' => return (.demand false, false)
  | some '+' => return (.replace false, false)
  | some '%' => return (.trim true (← take? '%'), false)
  | some '#' => return (.trim false (← take? '#'), false)
  | _ => return (.malformed, false)

def used (inner : Inner) (quoted : Bool) (name : String) : Reading Fragment := do
  let (u, closed) ← use
  if closed then return .parameter name u [] quoted
  else
    let isPattern := u matches .trim _ _
    let operand ← inner.nested (.braces (quoted && !isPattern))
    return .parameter name u operand quoted

/-- A parameter that cannot be expanded; the text up to the closing brace belongs to it. -/
def malformed (inner : Inner) (quoted : Bool) : Reading Fragment := do
  let operand ← inner.nested (.braces quoted)
  return .parameter "" .malformed operand quoted

/-- The length of a parameter, if nothing else follows its name. -/
def lengthOf (inner : Inner) (quoted : Bool) (name : String) : Reading Fragment := do
  if ← take? '\x7d' then return .parameter name .length [] quoted else malformed inner quoted

def numberSign (inner : Inner) (quoted : Bool) : Reading Fragment := do
  let before ← get
  match ← next? with
  | none => used inner quoted "#"
  | some c =>
    if isNameStart c then
      set before
      let name ← takeWhile isNameChar
      lengthOf inner quoted (String.ofList name)
    else if c.isDigit then lengthOf inner quoted (String.ofList [c])
    else if c = '\x7d' ∨ (← peek?) ≠ some '\x7d' then
      set before
      used inner quoted "#"
    else if isSpecialParameter c then lengthOf inner quoted (String.ofList [c])
    else malformed inner quoted

/-- A parameter between braces, behind the opening one. -/
def braced (inner : Inner) (quoted : Bool) : Reading Fragment := do
  match ← peek? with
  | none => fail .missingBrace
  | some c =>
    if isNameStart c then used inner quoted (String.ofList (← takeWhile isNameChar))
    else if c.isDigit then used inner quoted (String.ofList (← takeWhile Char.isDigit))
    else if c = '\x7d' then malformed inner quoted
    else
      let _ ← rawNext?
      if c = '#' then numberSign inner quoted
      else if isSpecialParameter c then used inner quoted (String.ofList [c])
      else malformed inner quoted

/-- The text of a substituted command in the old form, up to its end. A backslash quotes itself, a
dollar sign, the mark, and in double quotes a double quote. -/
def oldSubstitutionText (quoted : Bool) : Reading (List Char) := do
  let parts ← repeated do
    match ← rawNext? with
    | none => fail .unterminatedSubstitution
    | some c =>
      if c = graveAccent then return none
      else if c = '\\' then
        match ← rawNext? with
        | none => fail .unterminatedSubstitution
        | some '\n' => return some []
        | some d =>
          if d = graveAccent ∨ d = '\\' ∨ d = '$' ∨ (d = '"' ∧ quoted) then return some [d]
          else return some [c, d]
      else return some [c]
  return parts.flatten

def within {α : Type} (text : List Char) (reader : Reading α) : Reading α := do
  match reader.run { rest := text, aliases := (← get).aliases } with
  | .error e => throw e
  | .ok (a, _) => return a

def oldSubstitution (inner : Inner) (quoted : Bool) : Reading Fragment := do
  let text ← oldSubstitutionText quoted
  return .substitution (← within text inner.script) quoted

def dollar (inner : Inner) (quoted : Bool) : Reading Fragment := do
  match ← peek? with
  | some '(' =>
    let _ ← rawNext?
    if ← take? '(' then return .arithmetic (← inner.nested .arithmetic) quoted
    else return .substitution (← inner.enclosed) quoted
  | some '\x7b' =>
    let _ ← rawNext?
    braced inner quoted
  | some c =>
    if isNameStart c then
      return .parameter (String.ofList (← takeWhile isNameChar)) .value [] quoted
    else if isSpecialParameter c then
      let _ ← rawNext?
      return .parameter (String.ofList [c]) .value [] quoted
    else return .literal "$" quoted
  | none => return .literal "$" quoted

structure Quoting where
  /-- Whether a double quote ends the text. -/
  closes : Bool := false
  inBraces : Bool := false

def quotedFragment (inner : Inner) (q : Quoting) (c : Char) : Reading Fragment := do
  if c = '$' then dollar inner true
  else if c = graveAccent then oldSubstitution inner true
  else if c = '\\' then
    match ← rawNext? with
    | none => return .literal "\\" true
    | some d =>
      let isEscaped :=
        d = '\\' ∨ d = graveAccent ∨ d = '$' ∨ (d = '"' ∧ (q.closes ∨ q.inBraces)) ∨
          (d = '\x7d' ∧ q.inBraces)
      return .literal (String.ofList (if isEscaped then [d] else [c, d])) true
  else return .literal (String.ofList [c]) true

def merged : Word → Word
  | .literal a q :: rest =>
    match merged rest with
    | .literal b q' :: others =>
      if q = q' then .literal (a ++ b) q :: others else .literal a q :: .literal b q' :: others
    | others => .literal a q :: others
  | f :: rest => f :: merged rest
  | [] => []

/-- Whether quotes around a text make a word of it even if it expands to nothing. -/
def needsMark : Word → Bool
  | [.parameter "@" .value _ _] => false
  | _ => true

/-- Text in double quotes, behind the opening one. -/
def doubleQuoted (inner : Inner) : Reading Word := do
  let parts ← repeated do
    match ← next? with
    | none => fail .unterminatedQuote
    | some '"' => return none
    | some c => return some (← quotedFragment inner { closes := true } c)
  let w := merged parts
  return if needsMark w then .literal "" true :: w else w

/-- Text in single quotes, behind the opening one. -/
def singleQuoted : Reading Fragment := do
  match ← rawUntil? apostrophe with
  | none => fail .unterminatedQuote
  | some cs => return .literal (String.ofList cs) true

def activeFragments (inner : Inner) (c : Char) : Reading Word := do
  if c = apostrophe then return [← singleQuoted]
  else if c = '"' then doubleQuoted inner
  else if c = '$' then return [← dollar inner false]
  else if c = graveAccent then return [← oldSubstitution inner false]
  else if c = '\\' then
    match ← rawNext? with
    | none => return [.literal "\\" true]
    | some d => return [.literal (String.ofList [d]) true]
  else return [.literal (String.ofList [c]) false]

def bareBraces (inner : Inner) : Reading Word := do
  let parts ← repeated do
    match ← next? with
    | none => fail .missingBrace
    | some '\x7d' => return none
    | some c => return some (← activeFragments inner c)
  return merged parts.flatten

/-- The text between braces inside of quotes, where double quotes may stand around a part. -/
def quotedBraces (inner : Inner) : Reading Word := do
  let parts ← repeated do
    match ← next? with
    | none => fail .unterminatedQuote
    | some '\x7d' => return none
    | some '"' => return some (← doubleQuoted inner)
    | some c => return some [← quotedFragment inner { inBraces := true } c]
  return merged parts.flatten

/-- The text of arithmetic with parentheses in it, up to two closing ones of its own. -/
def arithmeticParts (inner : Inner) : Nat → Nat → Reading Word
  | 0, _ => fail .missingParentheses
  | limit + 1, depth => do
    match ← next? with
    | none => fail .missingParentheses
    | some '(' => return .literal "(" true :: (← arithmeticParts inner limit (depth + 1))
    | some ')' =>
      if depth = 0 then
        if ← take? ')' then return []
        else return .literal ")" true :: (← arithmeticParts inner limit 0)
      else return .literal ")" true :: (← arithmeticParts inner limit (depth - 1))
    | some c =>
      let f ← quotedFragment inner {} c
      return f :: (← arithmeticParts inner limit depth)

def nestedStep (inner : Inner) : Nest → Reading Word
  | .braces false => bareBraces inner
  | .braces true => quotedBraces inner
  | .arithmetic => do
    return merged (← arithmeticParts inner (← reach) 0)

def nestedTo (script enclosed : Reading Command) : Nat → Nest → Reading Word
  | 0, _ => fail .tooDeep
  | depth + 1, nest =>
    nestedStep { script, enclosed, nested := nestedTo script enclosed depth } nest

def innerReaders (script enclosed : Reading Command) : Reading Inner := do
  return { script, enclosed, nested := nestedTo script enclosed (← reach) }

/-- A word up to where it ends; empty if none begins here. -/
def word (script enclosed : Reading Command) : Reading Word := do
  let inner ← innerReaders script enclosed
  let parts ← repeated do
    match ← peek? with
    | none => return none
    | some c =>
      if isBreak c then return none
      else
        let _ ← rawNext?
        if isActive c then return some (← activeFragments inner c)
        else
          let others ← takeWhile fun d => !isBreak d && !isActive d
          return some [.literal (String.ofList (c :: others)) false]
  return merged parts.flatten

def documentWord (script enclosed : Reading Command) (text : List Char) : Reading Word :=
  within text do
    let inner ← innerReaders script enclosed
    let parts ← repeated do
      match ← next? with
      | none => return none
      | some c => return some (← quotedFragment inner {} c)
    return merged parts

/-- The mark that ends a here document, and whether any of it is quoted. -/
def documentMark : Reading (List Char × Bool) := do
  let parts ← repeated do
    match ← peek? with
    | none => return none
    | some c =>
      if isBreak c then return none
      else
        let _ ← rawNext?
        if c = apostrophe ∨ c = '"' then
          match ← rawUntil? c with
          | none => fail .unterminatedQuote
          | some cs => return some (cs, true)
        else if c = '\\' then return some ((← rawNext?).toList, true)
        else return some ([c], false)
  return (parts.flatMap (·.1), parts.any (·.2))

end WasmBundle.Shell.Reading
