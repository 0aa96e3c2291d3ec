import WasmBundle.Shell.Numeral
import WasmBundle.Shell.Process

/-!
# Conditions

The conditions of `test`: on texts, numbers and files, joined by `-a`, `-o`, `!` and parentheses.
What a word means depends on the words after it, so that every word can also be an operand.
-/

namespace WasmBundle.Shell.Condition

open Running

inductive Kind where
  | unary
  | binary
  | negation
  | both
  | either
  | opening
  | closing
  deriving DecidableEq, Repr

def unaryOperators : List String :=
  ["-r", "-w", "-x", "-e", "-f", "-d", "-c", "-b", "-p", "-u", "-g", "-k", "-s", "-t", "-z", "-n",
    "-h", "-O", "-G", "-L", "-S"]

def binaryOperators : List String :=
  ["=", "!=", "<", ">", "-eq", "-ne", "-ge", "-gt", "-le", "-lt", "-nt", "-ot", "-ef"]

def kind? (word : String) : Option Kind :=
  if unaryOperators.contains word then some .unary
  else if binaryOperators.contains word then some .binary
  else
    match word with
    | "!" => some .negation
    | "-a" => some .both
    | "-o" => some .either
    | "(" => some .opening
    | ")" => some .closing
    | _ => none

inductive Meaning where
  | nothing
  | operand
  | operator (k : Kind)
  deriving DecidableEq, Repr

/-- What the first of some words means. An operator with one operand is an operand itself where no
operand follows, or another operator does. -/
def meaning (words : List String) : Meaning :=
  match words with
  | [] => .nothing
  | w :: rest =>
    match kind? w with
    | none => .operand
    | some .unary =>
      match rest with
      | [] => .operand
      | [_] => .operator .unary
      | next :: _ => if kind? next = some .binary then .operand else .operator .unary
    | some .opening => if rest.isEmpty then .operand else .operator .opening
    | some k => .operator k

/-- Evaluation over the words from the current one on. -/
abbrev Testing := StateT (List String) Running

def refuse {α : Type} (text : String) : Testing α := Running.fail text

def move : Testing Unit := modify List.tail

def number (text : String) : Testing Int := do
  match Numeral.whole? false text with
  | some n => return n
  | none => refuse ("Illegal number: " ++ text)

/-- Whether what is at a path is as an operator says. -/
def fileIs (operator path : String) : Running Bool := do
  if operator = "-h" ∨ operator = "-L" then
    return (← onDisk (OnDisk.findEntry (pathOf path))) matches .ok (_, .link _)
  match ← onDisk (OnDisk.find (pathOf path)) with
  | .error _ => return false
  | .ok .directory => return ["-e", "-d", "-r", "-w", "-x", "-s", "-O", "-G"].contains operator
  | .ok (.file _ f) =>
    match operator with
    | "-f" => return f.kind = .regular
    | "-c" => return f.kind ≠ .regular
    | "-s" => return !f.content.isEmpty
    | "-x" => return f.executable
    | _ => return ["-e", "-r", "-w", "-O", "-G"].contains operator

def unary (operator operand : String) : Testing Bool := do
  match operator with
  | "-n" => return !operand.isEmpty
  | "-z" => return operand.isEmpty
  | "-t" =>
    let _ ← number operand
    return false
  | _ => fileIs operator operand

/-- The location and the entry that a path leads to. -/
def entryAt? (path : String) : Running (Option (Location × Entry)) :=
  onDisk (OnDisk.ask [.reading (pathOf path)] fun d =>
    match d.locate (pathOf path) with
    | .ok l => (d.lookup? l).map fun e => (l, e)
    | .error _ => none)

def isSame (a b : String) : Running Bool := do
  match ← entryAt? a, ← entryAt? b with
  | some (_, .file n), some (_, .file m) => return n == m
  | some (l, _), some (m, _) => return l == m
  | _, _ => return false

def timeAt? (path : String) : Running (Option Int) := do
  match ← entryAt? path with
  | some (_, .directory a) => return some a.time
  | some (_, .file n) => return ((← disk).files[n]?).map (·.attributes.time)
  | _ => return none

/-- Whether what is at one path was changed later than what is at another one. -/
def isNewer (a b : String) : Running Bool := do
  match ← timeAt? a, ← timeAt? b with
  | some x, some y => return y < x
  | _, _ => return false

/-- Whether two numbers compare as an operator says. -/
def compares (operator : String) (x y : Int) : Bool :=
  match operator with
  | "-eq" => x == y
  | "-ne" => x != y
  | "-ge" => decide (y ≤ x)
  | "-gt" => decide (y < x)
  | "-le" => decide (x ≤ y)
  | _ => decide (x < y)

def binary (a operator b : String) : Testing Bool := do
  match operator with
  | "=" => return a == b
  | "!=" => return a != b
  | "<" => return decide (a < b)
  | ">" => return decide (b < a)
  | "-ef" => isSame a b
  | "-nt" => isNewer a b
  | "-ot" => isNewer b a
  | _ =>
    let x ← number a
    let y ← number b
    return compares operator x y

/-- A condition that is no list; `nested` evaluates one in parentheses. -/
def simple (nested : Meaning → Testing Bool) (m : Meaning) : Testing Bool := do
  match m, ← get with
  | .nothing, _ => return false
  | _, [] => return false
  | .operator .opening, _ =>
    move
    let first := meaning (← get)
    if first = .operator .closing then return false
    else
      let result ← nested first
      move
      if meaning (← get) = .operator .closing then return result
      else refuse "closing paren expected"
  | .operator .unary, w :: _ =>
    move
    match (← get).head? with
    | none => refuse (w ++ ": argument expected")
    | some operand => unary w operand
  | _, w :: rest =>
    if meaning rest = .operator .binary then
      move
      move
      match rest, (← get).head? with
      | operator :: _, some operand => binary w operator operand
      | operator :: _, none => refuse (operator ++ ": argument expected")
      | [], _ => return false
    else return !w.isEmpty

def negated (nested : Meaning → Testing Bool) : Nat → Meaning → Testing Bool
  | 0, _ => return false
  | limit + 1, m => do
    if m = .operator .negation then
      let next := meaning (← get).tail
      if next ≠ .nothing then move
      return !(← negated nested limit next)
    else simple nested m

/-- Conditions joined by an operator, combined from the left. -/
def joined (part : Meaning → Testing Bool) (k : Kind) (combine : Bool → Bool → Bool) :
    Nat → Bool → Meaning → Testing Bool
  | 0, result, _ => return result
  | limit + 1, result, m => do
    let result := combine result (← part m)
    if meaning (← get).tail = .operator k then
      move
      move
      joined part k combine limit result (meaning (← get))
    else return result

def evaluate : Nat → Meaning → Testing Bool
  | 0, _ => return false
  | depth + 1, m => do
    let limit := (← get).length + 1
    let all := joined (negated (evaluate depth) limit) .both (· && ·) limit true
    joined all .either (· || ·) limit false m

def holds (words : List String) (first : Meaning) : Running Bool := do
  let (result, left) ← (evaluate (words.length + 1) first).run words
  match left with
  | w :: _ :: _ =>
    Running.fail (if w.isEmpty then "unexpected operator" else w ++ ": unexpected operator")
  | _ => return result

/-- Whether a condition holds. With three and four words some readings come before others. -/
def test : Nat → List String → Running Bool
  | 0, _ => return false
  | limit + 1, words => do
    let inner := (words.drop 1).dropLast
    let isEnclosed := words.head? = some "(" && words.getLast? = some ")"
    let isNegated := words.head? = some "!"
    match words with
    | [] => return false
    | [_, w, _] =>
      if kind? w = some .binary then holds words .operand
      else if isEnclosed then holds inner (meaning inner)
      else if isNegated then return !(← test limit (words.drop 1))
      else holds words (meaning words)
    | [_, _, _, _] =>
      if isEnclosed then holds inner (meaning inner)
      else if isNegated then return !(← test limit (words.drop 1))
      else holds words (meaning words)
    | _ => holds words (meaning words)

/-- The status of a condition: 0 if it holds. -/
def status (words : List String) : Running Nat := do
  return if ← test (words.length + 1) words then 0 else 1

end WasmBundle.Shell.Condition
