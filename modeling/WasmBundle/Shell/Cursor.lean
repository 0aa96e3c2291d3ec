import WasmBundle.Shell.Token

/-!
# Reading scripts

The state of reading a script, and reading by characters. A backslash at the end of a line joins it
to the next one. The text of a here document is taken out when its redirection is read; the lines
it had count when the line of the redirection ends. The text of an alias is put in front of the text
that is left, and its name does not stand for it as long as it lasts.
-/

namespace WasmBundle.Shell

structure Alias where
  name : String
  /-- How much text is left behind the text of the name. -/
  after : Nat
  /-- Whether the next word behind it may be such a name as well. -/
  goesOn : Bool

structure Cursor where
  rest : List Char
  line : Nat := 1
  /-- Lines of here documents that do not count yet. -/
  linesAhead : Nat := 0
  /-- A token that was read and put back. -/
  held : Option Token := none
  /-- The texts that names stand for. -/
  aliases : List (String × String) := []
  /-- The names whose texts are being read, the innermost one first. -/
  active : List Alias := []

abbrev Reading := StateT Cursor (Except SyntaxError)

namespace Reading

def fail {α : Type} (fault : SyntaxFault) : Reading α := do
  throw { line := (← get).line, fault }

def aliasRoom : Nat := 1000000

/-- A bound for what can be read: the text that is left, and room for that of aliases. -/
def reach : Reading Nat := do
  let s ← get
  return s.rest.length + 2 + (if s.aliases.isEmpty then 0 else aliasRoom)

def advance (c : Char) (rest : List Char) : Reading Unit :=
  modify fun s =>
    if c = '\n' then { s with rest := rest, line := s.line + 1 + s.linesAhead, linesAhead := 0 }
    else { s with rest := rest }

def rawNext? : Reading (Option Char) := do
  match (← get).rest with
  | [] => return none
  | c :: rest =>
    advance c rest
    return some c

/-- The text behind joined line ends, with their number. -/
def joined : List Char → Nat × List Char
  | '\\' :: '\n' :: rest =>
    let (n, text) := joined rest
    (n + 1, text)
  | text => (0, text)

def skipJoins : Reading Unit :=
  modify fun s =>
    let (n, rest) := joined s.rest
    { s with rest := rest, line := s.line + n }

def peek? : Reading (Option Char) := do
  skipJoins
  return (← get).rest.head?

def next? : Reading (Option Char) := do
  skipJoins
  rawNext?

def take? (c : Char) : Reading Bool := do
  if (← peek?) = some c then
    let _ ← rawNext?
    return true
  else return false

/-- Values of a step that is repeated at most `limit` times, up to where it gives none. -/
def repeatUpTo {α : Type} (step : Reading (Option α)) : Nat → Reading (List α)
  | 0 => return []
  | limit + 1 => do
    match ← step with
    | none => return []
    | some a => return a :: (← repeatUpTo step limit)

/-- Values of a step up to where it gives none. A step that gives a value moves on. -/
def repeated {α : Type} (step : Reading (Option α)) : Reading (List α) := do
  repeatUpTo step (← reach)

def takeWhile (p : Char → Bool) : Reading (List Char) :=
  repeated do
    match ← peek? with
    | some c =>
      if p c then
        let _ ← rawNext?
        return some c
      else return none
    | none => return none

/-- The next characters as they stand, up to one that ends them; none if there is no such one. -/
def rawUntil? (c : Char) : Reading (Option (List Char)) := do
  let cs := (← get).rest.takeWhile (· ≠ c)
  for d in cs do
    advance d ((← get).rest.drop 1)
  match ← rawNext? with
  | none => return none
  | some _ => return some cs

/-- Ends the aliases whose text is read; whether the next word may be one because of that. -/
def endAliases : Reading Bool := do
  let s ← get
  let (active, ended) := s.active.partition fun a => a.after < s.rest.length
  set { s with active := active }
  return ended.any (·.goesOn)

/-- Puts the text of a name in front, if it stands for one; whether it does. -/
def pushAlias (name : String) : Reading Bool := do
  let s ← get
  match if s.active.any (·.name == name) then none else s.aliases.lookup name with
  | none => return false
  | some text =>
    let a : Alias :=
      { name := name, after := s.rest.length
        goesOn := text.toList.getLast?.any fun c => c = ' ' || c = '\t' }
    set { s with rest := text.toList ++ s.rest, active := a :: s.active }
    return true

/-- Splits a text behind the end of its line; a line end inside quotes is none. -/
def splitLine (quote : Option Char) : List Char → List Char × List Char
  | [] => ([], [])
  | c :: rest =>
    if c = '\n' ∧ quote = none then (['\n'], rest)
    else
      match quote, c, rest with
      | q, '\\', d :: rest' =>
        if q = some apostrophe then
          let (line, others) := splitLine q (d :: rest')
          (c :: line, others)
        else
          let (line, others) := splitLine q rest'
          (c :: d :: line, others)
      | none, c, rest =>
        let inner := if c = apostrophe ∨ c = '"' then some c else none
        let (line, others) := splitLine inner rest
        (c :: line, others)
      | some q, c, rest =>
        let (line, others) := splitLine (if c = q then none else some q) rest
        (c :: line, others)

/-- The lines of a document up to its end mark, what follows it, and whether the mark is there. -/
def documentLines (dropsTabs : Bool) (mark : List Char) :
    List (List Char) → List (List Char) × List (List Char) × Bool
  | [] => ([], [], false)
  | line :: rest =>
    let line := if dropsTabs then line.dropWhile (· = '\t') else line
    if line = mark then ([], rest, true)
    else
      let (document, others, closed) := documentLines dropsTabs mark rest
      (line :: document, others, closed)

def document (dropsTabs : Bool) (mark : List Char) : Reading (List Char) := do
  let s ← get
  let (line, after) := splitLine none s.rest
  let (document, others, closed) := documentLines dropsTabs mark (lines after)
  let left := if after.getLast? = some '\n' then unlines others else joinWithSeparator '\n' others
  let count := document.length + (if closed then 1 else 0)
  let rest := line ++ left
  let gone := s.rest.length - rest.length
  set { s with
    rest := rest
    linesAhead := s.linesAhead + count
    active := s.active.map fun (a : Alias) => { a with after := a.after - gone } }
  return if closed ∨ after.getLast? = some '\n' then unlines document
    else joinWithSeparator '\n' document

end Reading

end WasmBundle.Shell
