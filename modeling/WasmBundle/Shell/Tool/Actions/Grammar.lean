import WasmBundle.Shell.Tool.Actions.Program

/-!
# The grammar of programs of actions

Reads tokens as a program. Terms are read by how tightly their signs hold: from choices over
conditions, comparisons and texts put together to sums, products, signs and powers. Faults that do
not keep the reader from going on are gathered; any of them refuses the program.
-/

namespace WasmBundle.Shell.Actions.Grammar

/-- What is left to be read, and what is known from what was. -/
structure Rest where
  tokens : List Placed
  told : List String := []
  /-- The names of the arguments of the function in progress. -/
  parameters : List String := []
  /-- Names that stand for tables everywhere. -/
  tables : List String := []
  /-- Names that stand for values everywhere. -/
  plain : List String := []
  /-- The functions that are called, with how many arguments. -/
  calls : List (String × Nat × Nat) := []
  loops : Nat := 0
  inFunction : Bool := false
  /-- Whether records are worked on. -/
  hasRecords : Bool := true

/-- A reader of tokens; it fails with all that is to be told. -/
abbrev Reading := StateT Rest (Except (List String))

def endPlace : Placed :=
  { token := .finish, line := 0, parens := 0, braces := 0, told := [] }

def here : Reading Placed := do return (← get).tokens.headD endPlace

def peek : Reading Token := do return (← here).token

def upcoming : Reading (List Token) := do return ((← get).tokens.take 4).map (·.token)

def advance : Reading Unit := do
  let p ← here
  modify fun s => { s with tokens := s.tokens.drop 1, told := s.told ++ p.told }

/-- Keeps what is to be told of the place in work. -/
def tell (message : String) : Reading Unit := do
  let p ← here
  modify fun s => { s with told := s.told ++ ["line " ++ toString p.line ++ ": " ++ message] }

def isClosing : Token → Bool
  | .lineEnd => true
  | .finish => true
  | .sign s => s == ";" || s == "\x7d"
  | _ => false

/-- What is told of a token that fits nowhere. -/
def refusal (p : Placed) : String :=
  let place := "line " ++ toString p.line ++ ": "
  match p.token with
  | .broken m => m
  | t =>
    if t = .finish ∧ 0 < p.braces then place ++ "missing \x7d near " ++ t.shown
    else if 0 < p.parens ∧ isClosing t then place ++ "missing ) near " ++ t.shown
    else place ++ "syntax error at or near " ++ t.shown

def refuse {α : Type} : Reading α := do
  let p ← here
  let s ← get
  StateT.lift (.error (s.told ++ p.told ++ [refusal p]))

def expect (t : Token) : Reading Unit := do
  if (← peek) = t then advance else refuse

def expectSign (s : String) : Reading Unit := expect (.sign s)

def takes (s : String) : Reading Bool := do
  if (← peek) = .sign s then
    advance
    return true
  else return false

def skipLineEnd : Reading Unit := do if (← peek) = .lineEnd then advance

def nameOf (text : String) : Reading Name := do
  match (← get).parameters.idxOf? text with
  | some i => return .argument i
  | none => return .shared text

def plainName (text : String) : Reading Name := do
  let n ← nameOf text
  if let .shared _ := n then
    if (← get).tables.contains text then tell ("illegal reference to array " ++ text)
    modify fun s => { s with plain := text :: s.plain }
  return n

def tableName (text : String) : Reading Name := do
  let n ← nameOf text
  if let .shared _ := n then
    if (← get).plain.contains text then tell ("illegal reference to variable " ++ text)
    modify fun s => { s with tables := text :: s.tables }
  return n

def nextTable : Reading Name := do
  match ← peek with
  | .name text =>
    let n ← tableName text
    advance
    return n
  | _ => refuse

/-- An expression to match with; what is wrong with it is told. -/
def regexOf (text : String) : Reading Regex := do
  match Matching.read text with
  | .ok r => return r
  | .error f =>
    tell ("regular expression compile failed (" ++ f.message ++ ")\n" ++ text)
    return .empty

/-- A term as what texts are matched with: a text says an expression. -/
def asPattern : Term → Reading Term
  | .text s => do return .regex (← regexOf s)
  | t => return t

/-- How the signs for output are taken in a term: as such in what is printed. -/
abbrev InPrint := Bool

def floatOf (text : String) : Float :=
  match Decimal.literal? text.toList with
  | some (negative, size, _) => Decimal.floatOf negative size
  | none => 0

def comparison? : String → Option Comparison
  | "<" => some .less
  | "<=" => some .atMost
  | "==" => some .equal
  | "!=" => some .unequal
  | ">" => some .greater
  | ">=" => some .atLeast
  | _ => none

/-- The operation behind a sign that assigns. -/
def assignment? : String → Option (Option Operation)
  | "=" => some none
  | "+=" => some (some .add)
  | "-=" => some (some .subtract)
  | "*=" => some (some .multiply)
  | "/=" => some (some .divide)
  | "%=" => some (some .remainder)
  | "^=" => some (some .power)
  | _ => none

def isPlace : Term → Bool
  | .name _ => true
  | .field _ => true
  | .element .. => true
  | _ => false

/-- Whether a token can start a term that is put behind another one. -/
def startsTerm : Token → Bool
  | .number _ => true
  | .text _ => true
  | .regex _ => true
  | .name _ => true
  | .caller _ => true
  | .builtin _ => true
  | .word w => w == "getline"
  | .sign s => ["$", "!", "(", "++", "--"].contains s
  | _ => false

/-- The least and the greatest number of arguments of functions that come along. -/
def argumentCounts : List (String × Nat × Nat) :=
  [("index", 2, 2), ("substr", 2, 3), ("sprintf", 1, 255), ("sin", 1, 1), ("cos", 1, 1),
    ("atan2", 2, 2), ("exp", 1, 1), ("log", 1, 1), ("int", 1, 1), ("sqrt", 1, 1), ("rand", 0, 0),
    ("srand", 0, 1), ("close", 1, 1), ("system", 1, 1), ("toupper", 1, 1), ("tolower", 1, 1),
    ("fflush", 0, 1), ("systime", 0, 0), ("strftime", 0, 3), ("mktime", 1, 1)]

/-- Terms between commas, up to what stands behind the last one. -/
def commaSeparated (term : Reading Term) : Nat → Reading (List Term)
  | 0 => refuse
  | limit + 1 => do
    let first ← term
    if ← takes "," then return first :: (← commaSeparated term limit) else return [first]

/-- Terms in parentheses; the opening one is taken. -/
def argumentsOf (term : Reading Term) (limit : Nat) : Reading (List Term) := do
  if ← takes ")" then return []
  else
    let l ← commaSeparated term limit
    expectSign ")"
    return l

/-- Readings of one kind with signs between them that hold from the left. -/
def leftward (operand : Reading Term) (sign : Token → Option (Term → Term → Reading Term)) :
    Nat → Term → Reading Term
  | 0, a => return a
  | limit + 1, a => do
    match sign (← peek) with
    | none => return a
    | some combine =>
      advance
      let b ← operand
      leftward operand sign limit (← combine a b)

/-- A function that comes along, behind its name. -/
def builtinCall (term place : Reading Term) (name : String) (limit : Nat) : Reading Term := do
  match name with
  | "length" =>
    if ← takes "(" then
      if ← takes ")" then return .builtin name [.field (.number 0)]
      else
        match ← upcoming with
        | .name text :: .sign ")" :: _ =>
          let n ← nameOf text
          advance
          advance
          return .builtin name [.name n]
        | _ =>
          let t ← term
          expectSign ")"
          return .builtin name [t]
    else return .builtin name [.field (.number 0)]
  | "match" => do
    expectSign "("
    let t ← term
    expectSign ","
    let p ← asPattern (← term)
    expectSign ")"
    return .builtin name [t, p]
  | "split" => do
    expectSign "("
    let t ← term
    expectSign ","
    let table ← nextTable
    if ← takes "," then
      let p ← term
      let p ←
        match p with
        | .text s => if s.length < 2 then pure p else asPattern p
        | _ => pure p
      expectSign ")"
      return .builtin name [t, .name table, p]
    else
      expectSign ")"
      return .builtin name [t, .name table]
  | _ =>
    if name = "sub" ∨ name = "gsub" then
      expectSign "("
      let p ← asPattern (← term)
      expectSign ","
      let text ← term
      let target ← if ← takes "," then place else pure (.field (.number 0))
      expectSign ")"
      return .builtin name [p, text, target]
    else
      expectSign "("
      let l ← argumentsOf term limit
      let (least, most) := (argumentCounts.lookup name).getD (0, 0)
      if l.length < least ∨ most < l.length then
        tell ("wrong number of arguments in call to " ++ name)
      return .builtin name l

def inTables : Nat → Term → Reading Term
  | 0, a => return a
  | limit + 1, a => do
    if (← peek) = .word "in" then
      advance
      inTables limit (.member [a] (← nextTable))
    else return a

mutual

def term (inPrint : InPrint) : Nat → Reading Term
  | 0 => refuse
  | limit + 1 => do
    let a ← disjunction inPrint limit
    if ← takes "?" then
      let yes ← term inPrint limit
      expectSign ":"
      let no ← term inPrint limit
      return .choose a yes no
    else return a

def disjunction (inPrint : InPrint) : Nat → Reading Term
  | 0 => refuse
  | limit + 1 => do
    leftward (conjunction inPrint limit)
      (fun t => if t = .sign "||" then some fun a b => return .either a b else none)
      (limit + 1) (← conjunction inPrint limit)

def conjunction (inPrint : InPrint) : Nat → Reading Term
  | 0 => refuse
  | limit + 1 => do
    leftward (membership inPrint limit)
      (fun t => if t = .sign "&&" then some fun a b => return .both a b else none)
      (limit + 1) (← membership inPrint limit)

/-- A term that may be asked for in tables. -/
def membership (inPrint : InPrint) : Nat → Reading Term
  | 0 => refuse
  | limit + 1 => do
    let a ← matching inPrint limit
    inTables (limit + 1) a

def matching (inPrint : InPrint) : Nat → Reading Term
  | 0 => refuse
  | limit + 1 => do
    leftward (comparing inPrint limit)
      (fun t =>
        if t = .sign "~" then some fun a b => do return .fits false a (← asPattern b)
        else if t = .sign "!~" then some fun a b => do return .fits true a (← asPattern b)
        else none)
      (limit + 1) (← comparing inPrint limit)

def comparing (inPrint : InPrint) : Nat → Reading Term
  | 0 => refuse
  | limit + 1 => do
    leftward (operand inPrint limit)
      (fun t =>
        match t with
        | .sign s =>
          if inPrint ∧ s = ">" then none
          else (comparison? s).map fun c => fun a b => return .compare c a b
        | _ => none)
      (limit + 1) (← operand inPrint limit)

/-- An assignment, or texts put together. -/
def operand (inPrint : InPrint) : Nat → Reading Term
  | 0 => refuse
  | limit + 1 => do
    let s ← get
    let starts : Bool :=
      match ← peek with
      | .name _ => true
      | .sign "$" => true
      | _ => false
    if starts then
      let p ← place limit
      match ← peek with
      | .sign sign =>
        match assignment? sign with
        | some operation =>
          advance
          return .assign operation p (← term inPrint limit)
        | none =>
          set s
          joined inPrint limit
      | _ =>
        set s
        joined inPrint limit
    else joined inPrint limit

/-- Terms that stand behind each other are put together. -/
def joined (inPrint : InPrint) : Nat → Reading Term
  | 0 => refuse
  | limit + 1 => do joinedOn inPrint limit (← sum limit)

def joinedOn (inPrint : InPrint) : Nat → Term → Reading Term
  | 0, a => return a
  | limit + 1, a => do
    if startsTerm (← peek) then joinedOn inPrint limit (.join a (← sum limit)) else return a

def sum : Nat → Reading Term
  | 0 => refuse
  | limit + 1 => do
    leftward (product limit)
      (fun t =>
        if t = .sign "+" then some fun a b => return .calculate .add a b
        else if t = .sign "-" then some fun a b => return .calculate .subtract a b
        else none)
      (limit + 1) (← product limit)

def product : Nat → Reading Term
  | 0 => refuse
  | limit + 1 => do
    leftward (signed limit)
      (fun t =>
        if t = .sign "*" then some fun a b => return .calculate .multiply a b
        else if t = .sign "/" then some fun a b => return .calculate .divide a b
        else if t = .sign "%" then some fun a b => return .calculate .remainder a b
        else none)
      (limit + 1) (← signed limit)

def signed : Nat → Reading Term
  | 0 => refuse
  | limit + 1 => do
    match ← peek with
    | .sign "!" =>
      advance
      return .not (← signed limit)
    | .sign "-" =>
      advance
      return .negative (← signed limit)
    | .sign "+" =>
      advance
      return .positive (← signed limit)
    | _ => do piped limit (← raised limit)

/-- A term whose text may be a command to read from. -/
def piped : Nat → Term → Reading Term
  | 0, a => return a
  | limit + 1, a => do
    match ← upcoming with
    | .sign "|" :: .word "getline" :: _ =>
      advance
      advance
      piped limit (.readCommand a (← placeIfAny limit))
    | _ => return a

def raised : Nat → Reading Term
  | 0 => refuse
  | limit + 1 => do
    let a ← counted limit
    if ← takes "^" then return .calculate .power a (← signed limit) else return a

/-- A simple term that may be counted up or down behind it. -/
def counted : Nat → Reading Term
  | 0 => refuse
  | limit + 1 => do
    let a ← simple limit
    if isPlace a then
      if ← takes "++" then return .count false true a
      else if ← takes "--" then return .count false false a
      else return a
    else return a

/-- A place that values can be assigned to. -/
def place : Nat → Reading Term
  | 0 => refuse
  | limit + 1 => do
    match ← peek with
    | .name text =>
      match (← upcoming)[1]? with
      | some (.sign "[") =>
        let n ← tableName text
        advance
        advance
        let keys ← commaSeparated (term false limit) limit
        expectSign "]"
        return .element n keys
      | _ =>
        let n ← plainName text
        advance
        return .name n
    | .sign "$" =>
      advance
      match ← peek with
      | .sign "++" =>
        advance
        return .field (.count true true (← place limit))
      | .sign "--" =>
        advance
        return .field (.count true false (← place limit))
      | .sign "-" =>
        advance
        return .field (.negative (← simple limit))
      | .sign "!" =>
        advance
        return .field (.not (← simple limit))
      | _ => return .field (← simple limit)
    | _ => refuse

def placeIfAny : Nat → Reading (Option Term)
  | 0 => return none
  | limit + 1 => do
    match ← peek with
    | .name _ => return some (← place limit)
    | .sign "$" => return some (← place limit)
    | _ => return none

def simple : Nat → Reading Term
  | 0 => refuse
  | limit + 1 => do
    match ← peek with
    | .number text =>
      advance
      return .number (floatOf text)
    | .text s =>
      advance
      return .text s
    | .regex s =>
      let r ← regexOf s
      advance
      return .regex r
    | .name _ => place limit
    | .sign "$" => place limit
    | .sign "++" =>
      advance
      return .count true true (← place limit)
    | .sign "--" =>
      advance
      return .count true false (← place limit)
    | .sign "(" =>
      advance
      match ← commaSeparated (term false limit) limit with
      | [t] =>
        expectSign ")"
        return t
      | l =>
        expectSign ")"
        expect (.word "in")
        return .member l (← nextTable)
    | .caller f =>
      advance
      advance
      let l ← argumentsOf (argument limit) limit
      let line := (← here).line
      modify fun s => { s with calls := (f, l.length, line) :: s.calls }
      return .call f l
    | .builtin f =>
      advance
      builtinCall (term false limit) (place limit) f limit
    | .word "getline" =>
      advance
      let p ← placeIfAny limit
      if ← takes "<" then return .readFile (← raised limit) p else return .readRecord p
    | _ => refuse

/-- An argument of a function; a bare name may be that of a table. -/
def argument : Nat → Reading Term
  | 0 => refuse
  | limit + 1 => do
    match ← upcoming with
    | .name text :: .sign s :: _ =>
      if s = "," ∨ s = ")" then
        let n ← nameOf text
        advance
        return .name n
      else term false limit
    | _ => term false limit

end

/-- The end of a statement. What closes a block is left there. -/
def closeStatement : Reading Unit := do
  match ← peek with
  | .sign ";" => advance
  | .lineEnd => advance
  | .sign "\x7d" => return ()
  | _ => refuse

def endsStatement : Reading Bool := do
  return isClosing (← peek)

/-- Where what is printed goes, if that is said. -/
def target? (limit : Nat) : Reading (Option Target) := do
  match ← peek with
  | .sign ">" =>
    advance
    return some (.file (← term false limit))
  | .sign ">>" =>
    advance
    return some (.fileEnd (← term false limit))
  | .sign "|" =>
    advance
    return some (.command (← term false limit))
  | _ => return none

/-- Whether what is printed may end before a token. -/
def endsItems (t : Token) : Bool :=
  isClosing t || t == .sign ">" || t == .sign ">>" || t == .sign "|"

/-- What is printed: terms between commas, which may stand in parentheses. -/
def printedItems (limit : Nat) : Reading (List Term) := do
  if endsItems (← peek) then return []
  else
    let s ← get
    let inParens? : Option (List Term × Rest) :=
      if s.tokens.head?.map (·.token) = some (.sign "(") then
        match (do
            advance
            let l ← argumentsOf (term false limit) limit
            if endsItems (← peek) then return l else refuse : Reading (List Term)).run s with
        | .ok r => some r
        | .error _ => none
      else none
    match inParens? with
    | some (l, next) =>
      set next
      return l
    | none => commaSeparated (term true limit) limit

def optionalTerm (limit : Nat) : Reading (Option Term) := do
  if ← endsStatement then return none else return some (← term false limit)

def condition (limit : Nat) : Reading Term := do
  expectSign "("
  let t ← term false limit
  expectSign ")"
  return t

def inLoop {α : Type} (work : Reading α) : Reading α := do
  modify fun s => { s with loops := s.loops + 1 }
  let a ← work
  modify fun s => { s with loops := s.loops - 1 }
  return a

mutual

def statement : Nat → Reading Statement
  | 0 => refuse
  | limit + 1 => do
    match ← peek with
    | .sign "\x7b" => return .block (← block limit)
    | .sign ";" =>
      advance
      return .nothing
    | .lineEnd =>
      advance
      return .nothing
    | .sign "\x7d" => return .nothing
    | .word w => worded limit w
    | _ =>
      let t ← term false limit
      closeStatement
      return .evaluate t

def block : Nat → Reading (List Statement)
  | 0 => refuse
  | limit + 1 => do
    expectSign "\x7b"
    let l ← statements limit
    expectSign "\x7d"
    return l

def statements : Nat → Reading (List Statement)
  | 0 => refuse
  | limit + 1 => do
    if (← peek) = .sign "\x7d" then return []
    else
      let first ← statement limit
      return first :: (← statements limit)

def worded (limit : Nat) (w : String) : Reading Statement := do
  match limit, w with
  | 0, _ => refuse
  | limit + 1, "if" => do
    advance
    let c ← condition limit
    skipLineEnd
    let yes ← statement limit
    if (← peek) = .word "else" then
      advance
      return .choose c yes (some (← statement limit))
    else return .choose c yes none
  | limit + 1, "while" => do
    advance
    let c ← condition limit
    if ← takes ";" then return .repeatWhile c .nothing
    else
      skipLineEnd
      return .repeatWhile c (← inLoop (statement limit))
  | limit + 1, "do" => do
    advance
    let body ← inLoop (statement limit)
    skipLineEnd
    expect (.word "while")
    let c ← condition limit
    closeStatement
    return .doWhile body c
  | limit + 1, "for" => do
    advance
    expectSign "("
    match ← upcoming with
    | .name x :: .word "in" :: .name t :: .sign ")" :: _ =>
      let x ← plainName x
      let t ← tableName t
      advance
      advance
      advance
      advance
      skipLineEnd
      return .forKeys x t (← inLoop (statement limit))
    | _ =>
      let start ← optionalTerm limit
      expectSign ";"
      let c ← optionalTerm limit
      expectSign ";"
      let step ← if (← peek) = .sign ")" then pure none else pure (some (← term false limit))
      expectSign ")"
      skipLineEnd
      return .loop start c step (← inLoop (statement limit))
  | limit + 1, "print" => do
    advance
    let items ← printedItems limit
    let target ← target? limit
    closeStatement
    return .print items target
  | limit + 1, "printf" => do
    advance
    let items ← printedItems limit
    if items.isEmpty then tell "no arguments in call to printf"
    let target ← target? limit
    closeStatement
    return .format items target
  | limit + 1, "getline" => do
    let t ← term false limit
    closeStatement
    return .evaluate t
  | limit + 1, "exit" => do
    advance
    let t ← optionalTerm limit
    closeStatement
    return .exit t
  | limit + 1, "return" => do
    if !(← get).inFunction then tell "return outside function body"
    advance
    let t ← optionalTerm limit
    closeStatement
    return .giveBack t
  | limit + 1, "delete" => do
    advance
    let n ← nextTable
    if ← takes "[" then
      let keys ← commaSeparated (term false limit) limit
      expectSign "]"
      closeStatement
      return .delete n (some keys)
    else
      closeStatement
      return .delete n none
  | _, "break" => do
    if (← get).loops = 0 then tell "break statement outside of loop"
    advance
    closeStatement
    return .stopLoop
  | _, "continue" => do
    if (← get).loops = 0 then tell "continue statement outside of loop"
    advance
    closeStatement
    return .nextTurn
  | _, "next" => do
    if !(← get).hasRecords then tell "improper use of next"
    advance
    closeStatement
    return .nextRecord
  | _, "nextfile" => do
    if !(← get).hasRecords then tell "improper use of nextfile"
    advance
    closeStatement
    return .nextFile
  | _, _ => refuse
termination_by structural limit

end

/-- The names of the arguments of a function, up to the closing parenthesis. -/
def parameters : Nat → List String → Reading (List String)
  | 0, _ => refuse
  | limit + 1, known => do
    match ← peek with
    | .name p =>
      if known.contains p then tell (p ++ " is duplicated in argument list")
      advance
      if ← takes "," then parameters limit (known ++ [p])
      else
        expectSign ")"
        return known ++ [p]
    | .sign ")" => do
      if known.isEmpty then
        advance
        return []
      else refuse
    | _ => refuse

/-- A function; its leading word comes next. -/
def routine (limit : Nat) (known : List Routine) : Reading Routine := do
  advance
  let name ←
    match ← peek with
    | .caller f => pure f
    | .name f => pure f
    | _ => refuse
  if known.any (·.name == name) then tell ("redefinition of " ++ name)
  if (← get).plain.contains name then tell ("illegal reference to variable " ++ name)
  advance
  expectSign "("
  let l ← parameters limit []
  if l.contains name then tell "function parameter cannot be the function"
  skipLineEnd
  modify fun s => { s with parameters := l, inFunction := true, hasRecords := false }
  let body ← block limit
  modify fun s => { s with parameters := [], inFunction := false, hasRecords := true }
  return { name, size := l.length, body := .block body }

def edgeRule (limit : Nat) (pattern : Pattern) : Reading Rule := do
  advance
  modify fun s => { s with hasRecords := false }
  let body ← block limit
  modify fun s => { s with hasRecords := true }
  return { pattern, action := some (.block body) }

def rule (limit : Nat) : Reading Rule := do
  match ← peek with
  | .word "BEGIN" => edgeRule limit .atStart
  | .word "END" => edgeRule limit .atEnd
  | .sign "\x7b" => return { pattern := .always, action := some (.block (← block limit)) }
  | _ =>
    let first ← term false limit
    let pattern ←
      if ← takes "," then pure (Pattern.between first (← term false limit))
      else pure (Pattern.when first)
    if (← peek) = .sign "\x7b" then
      return { pattern, action := some (.block (← block limit)) }
    else
      closeStatement
      return { pattern, action := none }

def program (size : Nat) : Nat → Program → Reading Program
  | 0, _ => refuse
  | limit + 1, p => do
    match ← peek with
    | .finish => return p
    | .word "function" =>
      let f ← routine size p.routines
      program size limit { p with routines := p.routines ++ [f] }
    | _ =>
      let r ← rule size
      program size limit { p with rules := p.rules ++ [r] }

/-- What is wrong with calls of functions. -/
def callFaults (p : Program) (last : Nat) (calls : List (String × Nat × Nat)) : List String :=
  calls.reverse.filterMap fun (f, count, line) =>
    match p.routine? f with
    | none => some ("line " ++ toString last ++ ": function " ++ f ++ " never defined")
    | some r =>
      if r.size < count then
        some ("line " ++ toString line ++ ": too many arguments in call to " ++ f)
      else none

/-- The program that a text says, or all that is wrong with it. -/
def read (text : String) : Except (List String) Program :=
  let tokens := tokensOf text
  let size := 20 * tokens.length + 100
  match (program size (tokens.length + 1) {}).run { tokens } with
  | .error l => .error l
  | .ok (p, s) =>
    let last := ((tokens.getLast?).map (·.line)).getD 1
    let faults := s.told ++ (s.tokens.flatMap (·.told)) ++ callFaults p last s.calls
    if faults.isEmpty then .ok p else .error faults

end WasmBundle.Shell.Actions.Grammar
