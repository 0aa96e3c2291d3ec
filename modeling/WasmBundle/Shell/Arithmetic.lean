import WasmBundle.Shell.Numeral
import WasmBundle.Shell.Process

/-!
# Arithmetic

Expressions over whole numbers of 64 bits and variables. They are read from tokens by the strength
of their operators; `&&`, `||` and `?:` evaluate only what they need.
-/

namespace WasmBundle.Shell.Arithmetic

inductive BinaryOp where
  | mul | div | rem | add | sub | shiftLeft | shiftRight
  | less | atMost | greater | atLeast | equal | unequal
  | bitAnd | bitXor | bitOr
  deriving DecidableEq, Repr

/-- The sign of an operator, and how weakly it binds. -/
def BinaryOp.table : List (String × BinaryOp × Nat) :=
  [("*", .mul, 0), ("/", .div, 0), ("%", .rem, 0), ("+", .add, 1), ("-", .sub, 1),
    ("<<", .shiftLeft, 2), (">>", .shiftRight, 2), ("<", .less, 3), ("<=", .atMost, 3),
    (">", .greater, 3), (">=", .atLeast, 3), ("==", .equal, 4), ("!=", .unequal, 4),
    ("&", .bitAnd, 5), ("^", .bitXor, 6), ("|", .bitOr, 7)]

def weakest : Nat := 7

/-- The operators that assign the result of another one. -/
def assigning : List (String × Option BinaryOp) :=
  [("=", none), ("*=", some .mul), ("/=", some .div), ("%=", some .rem), ("+=", some .add),
    ("-=", some .sub), ("<<=", some .shiftLeft), (">>=", some .shiftRight), ("&=", some .bitAnd),
    ("^=", some .bitXor), ("|=", some .bitOr)]

inductive Expression where
  | number (n : Int64)
  | name (text : String)
  | negative (e : Expression)
  | complement (e : Expression)
  | opposite (e : Expression)
  | binary (op : BinaryOp) (left right : Expression)
  | both (left right : Expression)
  | either (left right : Expression)
  | choice (test yes no : Expression)
  | assign (name : String) (op : Option BinaryOp) (e : Expression)
  deriving Repr

inductive Fault where
  | expectingPrimary
  | expectingClosing
  | expectingColon
  | expectingEnd
  | divisionByZero
  | tooDeep
  deriving DecidableEq, Repr

def Fault.message : Fault → String
  | .expectingPrimary => "expecting primary"
  | .expectingClosing => "expecting " ++ quoted ")"
  | .expectingColon => "expecting " ++ quoted ":"
  | .expectingEnd => "expecting EOF"
  | .divisionByZero => "division by zero"
  | .tooDeep => "nested too deeply"

inductive Token where
  | number (n : Int64)
  | name (text : String)
  | sign (text : String)
  deriving DecidableEq, Repr

/-- The signs, every one before its beginnings. -/
def signs : List (List Char) :=
  (["<<=", ">>=", "<<", ">>", "<=", ">=", "==", "!=", "&&", "||", "*=", "/=", "%=", "+=", "-=",
    "&=", "^=", "|=", "*", "/", "%", "+", "-", "<", ">", "=", "!", "~", "&", "|", "^", "?", ":",
    "(", ")"]).map String.toList

def tokens : Nat → List Char → List Token
  | 0, _ => []
  | _, [] => []
  | limit + 1, c :: rest =>
    if c = ' ' ∨ c = '\t' ∨ c = '\n' then tokens limit rest
    else if c.isDigit then
      let (n, after) := Numeral.leadingAnyBase (c :: rest)
      .number (Int64.ofInt (Numeral.clamp n)) :: tokens limit after
    else if isNameStart c then
      let name := (c :: rest).takeWhile isNameChar
      .name (String.ofList name) :: tokens limit ((c :: rest).drop name.length)
    else
      match signs.find? fun s => s.isPrefixOf (c :: rest) with
      | some s => .sign (String.ofList s) :: tokens limit ((c :: rest).drop s.length)
      | none => [.sign (String.ofList [c])]

abbrev Reading := StateT (List Token) (Except Fault)

/-- Moves behind a sign if it is the next token. -/
def take? (text : String) : Reading Bool := do
  match ← get with
  | .sign s :: rest =>
    if s = text then
      set rest
      return true
    else return false
  | _ => return false

/-- A number, a name, an expression in parentheses, or one of them behind signs. -/
def primary (nested : Reading Expression) : Nat → Reading Expression
  | 0 => throw .tooDeep
  | limit + 1 => do
    match ← get with
    | .number n :: rest =>
      set rest
      return .number n
    | .name text :: rest =>
      set rest
      return .name text
    | .sign s :: rest =>
      set rest
      match s with
      | "(" =>
        let e ← nested
        if ← take? ")" then return e else throw .expectingClosing
      | "+" => primary nested limit
      | "-" => return .negative (← primary nested limit)
      | "!" => return .opposite (← primary nested limit)
      | "~" => return .complement (← primary nested limit)
      | _ => throw .expectingPrimary
    | [] => throw .expectingPrimary

/-- The next token as an operator of a strength. -/
def operator? (level : Nat) : Reading (Option BinaryOp) := do
  match ← get with
  | .sign s :: rest =>
    match BinaryOp.table.lookup s with
    | some (op, l) =>
      if l = level then
        set rest
        return some op
      else return none
    | none => return none
  | _ => return none

/-- What stands to the right of an expression, joined by operators of one strength. -/
def chain (part : Reading Expression)
    (op? : Reading (Option (Expression → Expression → Expression)))
    (left : Expression) : Nat → Reading Expression
  | 0 => return left
  | limit + 1 => do
    match ← op? with
    | none => return left
    | some join => chain part op? (join left (← part)) limit

/-- An expression of operators that bind at least as strongly as a level says. -/
def level (operand : Reading Expression) : Nat → Reading Expression
  | 0 => operand
  | k + 1 => do
    let part := level operand k
    let left ← part
    let op? := do return (← operator? k).map Expression.binary
    chain part op? left ((← get).length + 1)

def joinedBy (text : String) (join : Expression → Expression → Expression)
    (part : Reading Expression) : Reading Expression := do
  let left ← part
  let op? := do return if ← take? text then some join else none
  chain part op? left ((← get).length + 1)

/-- An expression without assignments outside of parentheses. -/
def conditional (nested : Reading Expression) : Nat → Reading Expression
  | 0 => throw .tooDeep
  | limit + 1 => do
    let operand := primary nested ((← get).length + 1)
    let test ← joinedBy "||" .either (joinedBy "&&" .both (level operand (weakest + 1)))
    if ← take? "?" then
      let yes ← nested
      if ← take? ":" then return .choice test yes (← conditional nested limit)
      else throw .expectingColon
    else return test

def expression : Nat → Reading Expression
  | 0 => throw .tooDeep
  | depth + 1 => do
    match ← get with
    | .name text :: .sign s :: rest =>
      match assigning.lookup s with
      | some op =>
        set rest
        return .assign text op (← expression depth)
      | none => conditional (expression depth) ((← get).length + 1)
    | _ => conditional (expression depth) ((← get).length + 1)

def read (text : List Char) : Except Fault Expression := do
  let l := tokens text.length text
  let (e, rest) ← (expression (l.length + 1)).run l
  if rest.isEmpty then return e else throw .expectingEnd

def ofBool (b : Bool) : Int64 := if b then 1 else 0

def BinaryOp.apply (op : BinaryOp) (a b : Int64) : Except Fault Int64 :=
  match op with
  | .mul => .ok (a * b)
  | .div => if b = 0 then .error .divisionByZero else .ok (a / b)
  | .rem => if b = 0 then .error .divisionByZero else .ok (a % b)
  | .add => .ok (a + b)
  | .sub => .ok (a - b)
  | .shiftLeft => .ok (a <<< b)
  | .shiftRight => .ok (a >>> b)
  | .less => .ok (ofBool (a < b))
  | .atMost => .ok (ofBool (a ≤ b))
  | .greater => .ok (ofBool (b < a))
  | .atLeast => .ok (ofBool (b ≤ a))
  | .equal => .ok (ofBool (a == b))
  | .unequal => .ok (ofBool (a != b))
  | .bitAnd => .ok (a &&& b)
  | .bitXor => .ok (a ^^^ b)
  | .bitOr => .ok (a ||| b)

open Running

/-- Ends the evaluation of a text with a fault. -/
def failWith {α : Type} (text : String) (f : Fault) : Running α :=
  Running.fail ("arithmetic expression: " ++ f.message ++ ": " ++ "\"" ++ text ++ "\"")

def valueOf (name : String) : Running Int64 := do
  match value? (← get) name with
  | none => return 0
  | some "" => return 0
  | some text =>
    match Numeral.whole? true text with
    | some n => return Int64.ofInt n
    | none => Running.fail ("Illegal number: " ++ text)

def numeralOf (n : Int64) : String := toString n.toInt

/-- The value of an expression that was read from a text. -/
def evaluate (text : String) : Expression → Running Int64
  | .number n => return n
  | .name name => valueOf name
  | .negative e => do return -(← evaluate text e)
  | .complement e => do return ~~~(← evaluate text e)
  | .opposite e => do return ofBool ((← evaluate text e) == 0)
  | .binary op l r => do
    let a ← evaluate text l
    let b ← evaluate text r
    match op.apply a b with
    | .ok n => return n
    | .error f => failWith text f
  | .both l r => do
    if (← evaluate text l) = 0 then return 0
    else return ofBool ((← evaluate text r) != 0)
  | .either l r => do
    if (← evaluate text l) = 0 then return ofBool ((← evaluate text r) != 0)
    else return 1
  | .choice test yes no => do
    if (← evaluate text test) = 0 then evaluate text no else evaluate text yes
  | .assign name op e => do
    let b ← evaluate text e
    let n ←
      match op with
      | none => pure b
      | some op =>
        match op.apply (← valueOf name) b with
        | .ok n => pure n
        | .error f => failWith text f
    Running.assign name (numeralOf n)
    return n

def run (text : String) : Running String := do
  match read text.toList with
  | .error f => failWith text f
  | .ok e => return numeralOf (← evaluate text e)

end WasmBundle.Shell.Arithmetic
