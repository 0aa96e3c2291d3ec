import WasmBundle.Shell.Regex
import WasmBundle.Shell.Tool.Lines

/-!
# Reckoning with arguments

The tool that evaluates an expression given as arguments, with numbers and texts. Its status tells
whether the result is neither empty nor zero.
-/

namespace WasmBundle.Shell.Reckoning

open Running Tool

inductive Fault where
  | missingOperand
  | missingAfter (text : String)
  | unopened
  | unexpected (text : String)
  | expectedClosing (text : String) (isAfter : Bool)
  | noNumber
  | zeroDivision
  | badExpression (f : Regex.Fault)

def Fault.message : Fault → String
  | .missingOperand => "missing operand"
  | .missingAfter text => "syntax error: missing argument after " ++ quotedText text
  | .unopened => "syntax error: unexpected " ++ quoted ")"
  | .unexpected text => "syntax error: unexpected argument " ++ quotedText text
  | .expectedClosing text isAfter =>
    "syntax error: expecting " ++ quoted ")" ++ (if isAfter then " after " else " instead of ") ++
      quotedText text
  | .noNumber => "non-integer argument"
  | .zeroDivision => "division by zero"
  | .badExpression f => f.message

/-- The arguments that are left and the one that was read last. -/
structure Rest where
  words : List String
  last : String := ""

abbrev Reading := StateT Rest (Except Fault)

def refuse {α : Type} (f : Fault) : Reading α := StateT.lift (.error f)

/-- A whole number: digits with at most a minus sign. -/
def number? (text : String) : Option Int :=
  match text.toList with
  | '-' :: c :: rest => (Numeral.count? (String.ofList (c :: rest))).map fun n => -(n : Int)
  | _ => (Numeral.count? text).map Int.ofNat

def isNull (text : String) : Bool := text.isEmpty || number? text = some 0

def word : Reading String := do
  let s ← get
  match s.words with
  | [] => refuse (.missingAfter s.last)
  | w :: rest =>
    set { words := rest, last := w : Rest }
    return w

/-- The operator that comes next, if it is one of some. -/
def operator? (known : List String) : Reading (Option String) := do
  match (← get).words with
  | w :: rest =>
    if known.contains w then
      set { words := rest, last := w : Rest }
      return some w
    else return none
  | [] => return none

/-- What an expression matches at the start of a text: its first group, or how many characters. -/
def matched (text pattern : String) : Reading String := do
  match Regex.ofText? {} pattern.toList with
  | .error f => refuse (.badExpression f)
  | .ok r =>
    let s : Regex.Subject := { text := text.toList.toArray }
    let hasGroup := (pattern.splitOn "\\(").length > 1
    match Regex.longest (Regex.matchesFrom s r { place := 0 }) with
    | none => return if hasGroup then "" else "0"
    | some m =>
      if hasGroup then
        match m.groups.lookup 1 with
        | some (a, b) => return String.ofList (s.text.extract a b).toList
        | none => return ""
      else return toString m.place

def indexOf (text wanted : String) : Nat :=
  ((text.toList.findIdx? wanted.toList.contains).map (· + 1)).getD 0

def arithmetic (op a b : String) : Reading String := do
  match number? a, number? b with
  | some x, some y =>
    match op with
    | "+" => return toString (x + y)
    | "-" => return toString (x - y)
    | "*" => return toString (x * y)
    | "/" => if y = 0 then refuse .zeroDivision else return toString (x.tdiv y)
    | _ => if y = 0 then refuse .zeroDivision else return toString (x.tmod y)
  | _, _ => refuse .noNumber

def compared (op a b : String) : String :=
  let order :=
    match number? a, number? b with
    | some x, some y => compare x y
    | _, _ => compare a b
  let holds : Bool :=
    match op with
    | "<" => order == .lt
    | "<=" => order != .gt
    | "=" => order == .eq
    | "==" => order == .eq
    | "!=" => order != .eq
    | ">=" => order != .lt
    | _ => order == .gt
  if holds then "1" else "0"

/-- A single value. `inner` reads what stands in parentheses. -/
def primary (inner : Reading String) : Reading String := do
  match ← word with
  | "(" =>
    let value ← inner
    match (← get).words with
    | ")" :: _ =>
      let _ ← word
      return value
    | [] => refuse (.expectedClosing (← get).last true)
    | w :: _ => refuse (.expectedClosing w false)
  | ")" => refuse .unopened
  | "+" => word
  | w => return w

/-- A value made by a function, or a single one. -/
def called (inner : Reading String) : Nat → Reading String
  | 0 => primary inner
  | limit + 1 => do
    match ← operator? ["match", "substr", "index", "length"] with
    | some "match" =>
      let text ← called inner limit
      matched text (← called inner limit)
    | some "index" =>
      let text ← called inner limit
      return toString (indexOf text (← called inner limit))
    | some "length" => return toString (← called inner limit).length
    | some _ =>
      let text ← called inner limit
      let start ← called inner limit
      let length ← called inner limit
      match number? start, number? length with
      | some i, some n =>
        if i < 1 ∨ n < 1 then return ""
        else return String.ofList ((text.toList.drop (i.toNat - 1)).take n.toNat)
      | _, _ => return ""
    | none => primary inner

/-- Values joined by operators, from left to right. -/
def joined (part : Reading String) (known : List String)
    (combine : String → String → String → Reading String) : Nat → String → Reading String
  | 0, value => return value
  | limit + 1, value => do
    match ← operator? known with
    | none => return value
    | some op => joined part known combine limit (← combine op value (← part))

/-- An expression, with expressions in parentheses to a depth. -/
def expression : Nat → Reading String
  | 0 => refuse .missingOperand
  | depth + 1 => do
    let level := fun (part : Reading String) known combine => do
      let first ← part
      joined part known combine ((← get).words.length + 1) first
    let value := called (expression depth) depth
    let matching := level value [":"] fun _ a b => matched a b
    let products := level matching ["*", "/", "%"] arithmetic
    let sums := level products ["+", "-"] arithmetic
    let comparisons := level sums ["<", "<=", "=", "==", "!=", ">=", ">"] fun op a b =>
      return compared op a b
    let both := level comparisons ["&"] fun _ a b =>
      return if isNull a ∨ isNull b then "0" else a
    level both ["|"] fun _ a b =>
      return if !isNull a then a else if isNull b then "0" else b

def reckon : Tool := fun _ name arguments => do
  let words := if arguments.head? = some "--" then arguments.drop 1 else arguments
  if words.isEmpty then misuse name Fault.missingOperand.message 2
  else
    match (expression (words.length + 1)).run { words } with
    | .error f =>
      let _ ← complain name f.message
      return 2
    | .ok (value, left) =>
      match left.words with
      | w :: _ =>
        let _ ← complain name (Fault.unexpected w).message
        return 2
      | [] =>
        print (value ++ "\n")
        return if isNull value then 1 else 0

end WasmBundle.Shell.Reckoning
