import WasmBundle.Shell.Word

/-!
# Reading commands

Commands are read from tokens: lists of pipelines joined by `&&` and `||`, simple commands and
compound ones. A script is read one complete command at a time, since what it runs may come before
what cannot be read.
-/

namespace WasmBundle.Shell.Reading

inductive ListKind where
  /-- A word that closes a compound command, with at least one command before it. -/
  | body
  /-- The same, with any number of commands before it. -/
  | optional

structure Parts where
  list : ListKind → Reading Command
  command : Reading Command

structure Look where
  keywords : Bool := false
  /-- Whether a word may be an alias. -/
  aliases : Bool := false
  /-- Whether line ends are passed over. -/
  passesLines : Bool := false

def plainly : Look := {}

def atStart : Look := { keywords := true, aliases := true }

def afterBreak : Look := { atStart with passesLines := true }

def atName : Look := { aliases := true }

def atBranch : Look := { keywords := true, passesLines := true }

def hold (t : Token) : Reading Unit := modify fun s => { s with held := some t }

def unexpected {α : Type} (found : Token) (expected : Option Token) : Reading α :=
  fail (.unexpected found expected)

def skipBlanks : Reading Unit := do
  let _ ← takeWhile isSpace
  if (← peek?) = some '#' then
    modify fun s => { s with rest := s.rest.dropWhile (· ≠ '\n') }

def openingSign (c : Char) : Reading RedirectionSign := do
  if c = '>' then
    if ← take? '>' then return .opening .append
    else if ← take? '|' then return .opening .overwrite
    else if ← take? '&' then return .duplicating
    else return .opening .write
  else if ← take? '<' then return .document (← take? '-')
  else if ← take? '&' then return .duplicating
  else if ← take? '>' then return .opening .both
  else return .opening .read

def descriptor? (w : Word) : Option Nat :=
  match (plainText? w).map String.toList with
  | some [c] => if c.isDigit then some (c.toNat - '0'.toNat) else none
  | _ => none

def redirectionToken (c : Char) (descriptor : Option Nat) : Reading Token := do
  return .redirection (descriptor.getD (if c = '>' then 1 else 0)) (← openingSign c)

/-- A word, or the redirection that a digit begins. -/
def wordToken (script enclosed : Reading Command) : Reading Token := do
  let w ← word script enclosed
  match ← peek?, descriptor? w with
  | some c, some n =>
    if c = '<' ∨ c = '>' then
      let _ ← rawNext?
      redirectionToken c (some n)
    else return .word w
  | _, _ => return .word w

def scan (script enclosed : Reading Command) : Reading Token := do
  skipBlanks
  match ← peek? with
  | none => return .endOfInput
  | some c =>
    if c ∈ ['\n', '&', '|', ';', '(', ')', '<', '>'] then
      let _ ← rawNext?
      match c with
      | '\n' => return .newline
      | '&' => return if ← take? '&' then .andSign else .ampersand
      | '|' => return if ← take? '|' then .orSign else .pipe
      | ';' => return if ← take? ';' then .branchEnd else .semicolon
      | '(' => return .opening
      | ')' => return .closing
      | _ => redirectionToken c none
    else wordToken script enclosed

def wholeScript (p : Parts) : Reading Command := do
  let n ← p.list .optional
  match (← get).held with
  | none => return n
  | some .endOfInput => return n
  | some t => unexpected t none

/-- A list up to a closing parenthesis, with it. -/
def enclosedScript (p : Parts) : Reading Command := do
  let n ← p.list .optional
  match (← get).held with
  | some .closing =>
    modify fun s => { s with held := none }
    return n
  | some t => unexpected t (some .closing)
  | none => unexpected .endOfInput (some .closing)

def seen (look : Look) (t : Token) : Token :=
  match t with
  | .word w =>
    if look.keywords then
      match (plainText? w).bind Keyword.ofText? with
      | some k => .keyword k
      | none => t
    else t
  | _ => t

/-- The next token that is no passed line end. A word that is an alias is replaced by its text. -/
def tokenUpTo (p : Parts) (look : Look) : Nat → Reading Token
  | 0 => return .endOfInput
  | limit + 1 => do
    match (← get).held with
    | some t =>
      modify fun s => { s with held := none }
      if t matches .newline && look.passesLines then tokenUpTo p look limit
      else return seen look t
    | none =>
      skipBlanks
      let mayBeAlias := (← endAliases) || look.aliases
      let t ← scan (wholeScript p) (enclosedScript p)
      match seen look t with
      | .newline => if look.passesLines then tokenUpTo p look limit else return t
      | .word w =>
        match if mayBeAlias then plainText? w else none with
        | some name =>
          if ← pushAlias name then tokenUpTo p { look with aliases := true } limit
          else return .word w
        | none => return .word w
      | t => return t

def token (p : Parts) (look : Look) : Reading Token := do tokenUpTo p look (← reach)

def expect (p : Parts) (look : Look) (k : Keyword) : Reading Unit := do
  match ← token p look with
  | .keyword k' => if k' = k then return () else unexpected (.keyword k') (some (.keyword k))
  | t => unexpected t (some (.keyword k))

/-- The redirection that a sign begins, behind the sign. -/
def redirectionAfter (p : Parts) (descriptor : Nat) (sign : RedirectionSign) :
    Reading Redirection := do
  match sign with
  | .document dropsTabs =>
    skipBlanks
    let (mark, isQuoted) ← documentMark
    if mark.isEmpty ∧ !isQuoted then unexpected (← token p plainly) none
    else
      let text ← document dropsTabs mark
      if isQuoted then
        return .document descriptor [.literal (String.ofList text) true]
      else return .document descriptor (← documentWord (wholeScript p) (enclosedScript p) text)
  | .opening mode =>
    match ← token p plainly with
    | .word w => return .file descriptor mode w
    | t => unexpected t none
  | .duplicating =>
    match ← token p plainly with
    | .word w => return .duplicate descriptor w
    | t => unexpected t none

/-- The redirections that follow a compound command. -/
def redirections (p : Parts) : Reading (List Redirection) :=
  repeated do
    match ← token p atStart with
    | .redirection descriptor sign => return some (← redirectionAfter p descriptor sign)
    | t =>
      hold t
      return none

/-- What a simple command is made of so far. -/
structure Simple where
  assignments : List Word := []
  words : List Word := []
  redirections : List Redirection := []

/-- Commands of the shell itself whose faults end a script, and whose names no function can have. -/
def specialNames : List String :=
  [".", ":", "break", "continue", "eval", "exec", "exit", "export", "readonly", "return", "set",
    "shift", "times", "trap", "unset"]

/-- A function named by the only word of a command, behind the opening parenthesis. -/
def functionDefinition (p : Parts) (name : Word) : Reading Command := do
  match ← token p plainly with
  | .closing =>
    let text := (plainText? name).getD ""
    if !isName text.toList ∨ text ∈ specialNames then fail .badFunctionName
    else
      hold (← token p afterBreak)
      return .definition text (← p.command)
  | t => unexpected t (some .closing)

/-- A simple command, or the definition of a function. -/
def simpleUpTo (p : Parts) (line : Nat) (c : Simple) : Nat → Reading Command
  | 0 => fail .tooDeep
  | limit + 1 => do
    match ← token p (if c.words.isEmpty then atName else plainly) with
    | .word w =>
      if c.words.isEmpty ∧ (assignment? w).isSome then
        simpleUpTo p line { c with assignments := c.assignments ++ [w] } limit
      else simpleUpTo p line { c with words := c.words ++ [w] } limit
    | .redirection descriptor sign =>
      let r ← redirectionAfter p descriptor sign
      simpleUpTo p line { c with redirections := c.redirections ++ [r] } limit
    | t =>
      match t, c with
      | .opening, { assignments := [], words := [name], redirections := [] } =>
        functionDefinition p name
      | _, _ =>
        hold t
        return .simple line c.assignments c.words c.redirections

/-- What follows the first condition of a conditional, up to its end. -/
def conditionalUpTo (p : Parts) : Nat → Reading Command
  | 0 => fail .tooDeep
  | limit + 1 => do
    let test ← p.list .body
    expect p plainly .thenRun
    let body ← p.list .body
    match ← token p plainly with
    | .keyword .orIf => return .conditional test body (← conditionalUpTo p limit)
    | .keyword .otherwise => return .conditional test body (← p.list .body)
    | t =>
      hold t
      return .conditional test body .nothing

def loopCommand (p : Parts) (untilHolds : Bool) : Reading Command := do
  let test ← p.list .body
  expect p plainly .startBody
  return .loop untilHolds test (← p.list .body)

/-- The items of an iteration, up to the end of their line. -/
def iterationItems (p : Parts) : Reading (List Word) := do
  let items ← repeated do
    match ← token p plainly with
    | .word w => return some w
    | t =>
      hold t
      return none
  match ← token p plainly with
  | .newline => return items
  | .semicolon => return items
  | t => unexpected t none

/-- The items of an iteration that names none: the arguments. -/
def allArguments : Word := [.parameter "@" .value [] true]

def iterationCommand (p : Parts) (line : Nat) : Reading Command := do
  match ← token p plainly with
  | .word w =>
    match plainText? w with
    | none => fail .badLoopVariable
    | some name =>
      if !isName name.toList then fail .badLoopVariable
      else
        let items ←
          match ← token p afterBreak with
          | .keyword .amongItems => iterationItems p
          | .semicolon => pure [allArguments]
          | t =>
            hold t
            pure [allArguments]
        expect p afterBreak .startBody
        return .iteration line name items (← p.list .body)
  | _ => fail .badLoopVariable

/-- A token as a pattern, where keywords are ordinary words. -/
def patternOf : Token → Word
  | .word w => w
  | .keyword k => [.literal k.text false]
  | _ => []

/-- The patterns of a branch behind the first one, up to the closing parenthesis. -/
def patternsUpTo (p : Parts) : Nat → Reading (List Word)
  | 0 => fail .tooDeep
  | limit + 1 => do
    match ← token p plainly with
    | .pipe =>
      let next := patternOf (← token p plainly)
      return next :: (← patternsUpTo p limit)
    | .closing => return []
    | t => unexpected t (some .closing)

/-- The branches of a selection, up to the word that ends it. -/
def branchesUpTo (p : Parts) : Nat → Reading (List Branch)
  | 0 => fail .tooDeep
  | limit + 1 => do
    match ← token p atBranch with
    | .keyword .endBranches => return []
    | t =>
      let first ←
        match t with
        | .opening => token p plainly
        | _ => pure t
      let others ← patternsUpTo p limit
      let branch := Branch.mk (patternOf first :: others) (← p.list .optional)
      match ← token p atBranch with
      | .keyword .endBranches => return [branch]
      | .branchEnd => return branch :: (← branchesUpTo p limit)
      | t => unexpected t (some .branchEnd)

def selectionCommand (p : Parts) (line : Nat) : Reading Command := do
  match ← token p plainly with
  | .word subject =>
    expect p afterBreak .amongItems
    return .selection line subject (← branchesUpTo p (← reach))
  | t => unexpected t (some (.word []))

/-- A compound command with the redirections that follow it. -/
def redirectedBy (line : Nat) (n : Command) : List Redirection → Command
  | [] => n
  | l =>
    match n with
    | .subshell line body _ => .subshell line body l
    | _ => .redirected line n l

/-- Reads the end of a compound command and its redirections. -/
def closed (p : Parts) (line : Nat) (n : Command) (k : Keyword) : Reading Command := do
  expect p plainly k
  return redirectedBy line n (← redirections p)

def commandStep (p : Parts) (look : Look) : Reading Command := do
  let line := (← get).line
  let limit ← reach
  match ← token p look with
  | .keyword .startIf => closed p line (← conditionalUpTo p limit) .endIf
  | .keyword .whileHolds => closed p line (← loopCommand p false) .endBody
  | .keyword .untilHolds => closed p line (← loopCommand p true) .endBody
  | .keyword .forEach => closed p line (← iterationCommand p line) .endBody
  | .keyword .branchOn =>
    let n ← selectionCommand p line
    return redirectedBy line n (← redirections p)
  | .keyword .startGroup => closed p line (← p.list .body) .endGroup
  | .opening =>
    let body ← p.list .body
    match ← token p plainly with
    | .closing => return redirectedBy line (.subshell line body []) (← redirections p)
    | t => unexpected t (some .closing)
  | .word w =>
    hold (.word w)
    simpleUpTo p (← get).line {} limit
  | .redirection descriptor sign =>
    hold (.redirection descriptor sign)
    simpleUpTo p (← get).line {} limit
  | t => unexpected t none

def stages (p : Parts) : Reading (List Command) :=
  repeated do
    match ← token p plainly with
    | .pipe => return some (← commandStep p afterBreak)
    | t =>
      hold t
      return none

def pipeline (p : Parts) (look : Look) : Reading Command := do
  let t ← token p look
  let negates := t matches .keyword .bang
  if !negates then hold t
  let first ← commandStep p (if negates then atStart else plainly)
  let others ← stages p
  let n := if others.isEmpty then first else .pipeline (first :: others)
  return if negates then .negation n else n

def joinedTo (p : Parts) (n : Command) : Nat → Reading Command
  | 0 => return n
  | limit + 1 => do
    match ← token p plainly with
    | .andSign => joinedTo p (.conjunction n (← pipeline p afterBreak)) limit
    | .orSign => joinedTo p (.disjunction n (← pipeline p afterBreak)) limit
    | t =>
      hold t
      return n

def andOr (p : Parts) : Reading Command := do
  joinedTo p (← pipeline p plainly) (← reach)

def followedBy : Option Command → Command → Command
  | none, n => n
  | some before, n => .sequence before n

/-- The next command of a list, and the token behind it. -/
def item (p : Parts) (before : Option Command) : Reading (Command × Token) := do
  let n ← andOr p
  let t ← token p plainly
  let n := if t matches .ampersand then .background n else n
  return (followedBy before n, t)

def listUpTo (p : Parts) (kind : ListKind) (before : Option Command) : Nat → Reading Command
  | 0 => fail .tooDeep
  | limit + 1 => do
    let t ← token p afterBreak
    hold t
    let mayEnd := before.isSome || kind matches .optional
    if t matches .endOfInput then return before.getD .nothing
    else if mayEnd && t.endsList then return before.getD .nothing
    else
      match ← item p before with
      | (n, .newline) => listUpTo p kind (some n) limit
      | (n, .semicolon) => listUpTo p kind (some n) limit
      | (n, .ampersand) => listUpTo p kind (some n) limit
      | (n, t) =>
        hold t
        return n

/-- Commands up to the end of a line; none at the end of the text. -/
def lineUpTo (p : Parts) (before : Option Command) : Nat → Reading (Option Command)
  | 0 => fail .tooDeep
  | limit + 1 => do
    match ← token p atStart with
    | .newline => return some (before.getD .nothing)
    | .endOfInput =>
      hold .endOfInput
      return before
    | t =>
      hold t
      match ← item p before with
      | (n, .newline) => return some n
      | (n, .endOfInput) =>
        hold .endOfInput
        return some n
      | (n, .semicolon) => lineUpTo p (some n) limit
      | (n, .ampersand) => lineUpTo p (some n) limit
      | (_, t) => unexpected t none

/-- What can be read: a list or a single command. -/
inductive Goal where
  | list (kind : ListKind)
  | command

def readTo : Nat → Goal → Reading Command
  | 0, _ => fail .tooDeep
  | depth + 1, goal => do
    let p : Parts :=
      { list := fun kind => readTo depth (.list kind), command := readTo depth .command }
    match goal with
    | .list kind => listUpTo p kind none (← reach)
    | .command => commandStep p plainly

def partsFor (depth : Nat) : Parts where
  list kind := readTo depth (.list kind)
  command := readTo depth .command

/-- The next complete command of a script; none at its end. -/
def completeCommand : Reading (Option Command) := do
  let limit ← reach
  lineUpTo (partsFor limit) none limit

end WasmBundle.Shell.Reading
