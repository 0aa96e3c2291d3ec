import WasmBundle.Shell.Regex
import WasmBundle.Shell.Tool.Actions.Token

/-!
# Expressions that texts are matched with

Regular expressions as programs of actions write them: escapes count in brackets too, the start and
the end of a text are meant wherever their signs stand, and every alternative must say something.
-/

namespace WasmBundle.Shell.Actions.Matching

open Regex

inductive Fault where
  | noOperand
  | noClosing
  | badBracket
  | badInterval
  | tooLarge
  deriving DecidableEq, Repr

def Fault.message : Fault → String
  | .noOperand => "missing operand"
  | .noClosing => "missing " ++ quoted ")"
  | .badBracket => "bad class -- [], [^] or ["
  | .badInterval => "bad interval expression"
  | .tooLarge => "resource exhaustion -- regular expression too large"

abbrev Reading := StateT (List Char) (Except Fault)

def refuse {α : Type} (f : Fault) : Reading α := StateT.lift (.error f)

/-- The character at the start of a part of a bracket, and what follows it. -/
def bracketChar (cs : List Char) : Option (Char × List Char) :=
  match cs with
  | [] => none
  | '\\' :: rest =>
    match escaped rest with
    | (['\\', c], after) => some (c, after)
    | ([c], after) => some (c, after)
    | _ => none
  | c :: rest => some (c, rest)

def members : Nat → Bool → List Char → Except Fault (List Member × List Char)
  | 0, _, _ => .error .badBracket
  | limit + 1, isFirst, cs => do
    match cs, isFirst with
    | ']' :: rest, false => return ([], rest)
    | '[' :: ':' :: rest, _ =>
      let name := String.ofList (rest.takeWhile Char.isAlpha)
      match rest.drop name.length with
      | ':' :: ']' :: after =>
        if classNames.contains name then
          let (others, left) ← members limit false after
          return (.named name :: others, left)
        else throw .badBracket
      | _ => throw .badBracket
    | _, _ =>
      match bracketChar cs with
      | none => throw .badBracket
      | some (low, rest) =>
        match rest with
        | '-' :: c :: more =>
          if c = ']' then
            let (others, left) ← members limit false rest
            return (.range low low :: others, left)
          else
            match bracketChar (c :: more) with
            | none => throw .badBracket
            | some (high, after) =>
              let (others, left) ← members limit false after
              return (.range low high :: others, left)
        | _ =>
          let (others, left) ← members limit false rest
          return (.range low low :: others, left)

def bracket : Reading Regex := do
  let cs ← get
  let (negated, rest) :=
    match cs with
    | '^' :: r => (true, r)
    | _ => (false, cs)
  match members (rest.length + 1) true rest with
  | .error f => refuse f
  | .ok (l, after) =>
    set after
    return .one (.oneOf negated l)

/-- How often something is repeated, as it stands in braces, and what follows them. -/
def interval? (cs : List Char) : Option (Option Nat × Option (Option Nat) × List Char) := do
  let low := cs.takeWhile Char.isDigit
  let count := fun (ds : List Char) => if ds.isEmpty then none else some (Numeral.ofDigits 10 ds)
  match cs.drop low.length with
  | '\x7d' :: rest => if low.isEmpty then none else some (count low, none, rest)
  | ',' :: more =>
    let high := more.takeWhile Char.isDigit
    match more.drop high.length with
    | '\x7d' :: rest =>
      if low.isEmpty ∧ high.isEmpty then none else some (count low, some (count high), rest)
    | _ => none
  | _ => none

/-- An expression with the signs behind it that repeat it. From two times on, the least number of
times is the only one. -/
def withSigns : Nat → Regex → Reading Regex
  | 0, r => return r
  | limit + 1, r => do
    match ← get with
    | '*' :: rest =>
      set rest
      withSigns limit (.repeated r 0 none)
    | '+' :: rest =>
      set rest
      withSigns limit (.repeated r 1 none)
    | '?' :: rest =>
      set rest
      withSigns limit (.repeated r 0 (some 1))
    | '\x7b' :: rest =>
      match interval? rest with
      | none => return r
      | some (low, high, after) =>
        set after
        let least := low.getD 0
        match high with
        | none => withSigns limit (.repeated r least (some least))
        | some none =>
          withSigns limit (.repeated r least (if least < 2 then none else some least))
        | some (some most) =>
          if most < least then refuse .badInterval
          else withSigns limit (.repeated r least (some (if least < 2 then most else least)))
    | _ => return r

/-- One part of an expression. A closing parenthesis stands for itself outside of groups. -/
def part (inner : Reading Regex) (inGroup : Bool) : Reading (Option Regex) := do
  match ← get with
  | [] => return none
  | '|' :: _ => return none
  | '*' :: _ => refuse .noOperand
  | '+' :: _ => refuse .noOperand
  | '?' :: _ => refuse .noOperand
  | '(' :: rest =>
    if rest.isEmpty then refuse .noClosing
    set rest
    let r ← inner
    match ← get with
    | ')' :: after =>
      set after
      return some r
    | _ => refuse .noClosing
  | ')' :: rest =>
    if inGroup then return none
    else
      set rest
      return some (.one (.exactly ')'))
  | '[' :: rest =>
    set rest
    return some (← bracket)
  | '.' :: rest =>
    set rest
    return some (.one .anyOne)
  | '^' :: rest =>
    set rest
    return some .textStart
  | '$' :: rest =>
    set rest
    return some .textEnd
  | '\\' :: rest =>
    let (e, after) := escaped rest
    set after
    match e with
    | ['\\', c] => return some (.one (.exactly c))
    | c :: _ => return some (.one (.exactly c))
    | [] => return some .empty
  | '\x7b' :: rest =>
    if (interval? rest).isSome then refuse .tooLarge
    else
      set rest
      return some (.one (.exactly '\x7b'))
  | c :: rest =>
    set rest
    return some (.one (.exactly c))

def sequence (inner : Reading Regex) (inGroup : Bool) : Nat → Reading (Option Regex)
  | 0 => return none
  | limit + 1 => do
    match ← part inner inGroup with
    | none => return none
    | some a =>
      let r ← withSigns (limit + 1) a
      match ← sequence inner inGroup limit with
      | none => return some r
      | some rest => return some (.both r rest)

/-- Alternatives, each of which says something. -/
def alternatives (inGroup : Bool) : Nat → Reading Regex
  | 0 => refuse .noOperand
  | limit + 1 => do
    match ← sequence (alternatives true limit) inGroup (limit + 1) with
    | none => refuse .noOperand
    | some a =>
      match ← get with
      | '|' :: rest =>
        set rest
        return .either a (← alternatives inGroup limit)
      | _ => return a

def read (text : String) : Except Fault Regex :=
  let cs := text.toList
  if cs.isEmpty then .ok .empty else ((alternatives false (cs.length + 1)).run cs).map (·.1)

/-- The leftmost longest match in a text from a place on, as where it starts and ends. -/
def find? (r : Regex) (text : Array Char) (place : Nat) : Option (Nat × Nat) :=
  (Regex.search { text } r place).map fun found => (found.1, found.2.place)

end WasmBundle.Shell.Actions.Matching
