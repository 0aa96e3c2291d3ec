import WasmBundle.Shell.Tool.Lines

/-!
# Columns on a screen

Tools that count where a character would stand on a screen: the one that breaks lines which are too
wide, and those that replace tabs by blanks and blanks by tabs.
-/

namespace WasmBundle.Shell.Tool

open Running

def tabWidth : Nat := 8

def columnAfter (column : Nat) (c : Char) : Nat :=
  if c = Char.ofNat 8 then column - 1
  else if c = '\r' then 0
  else if c = '\t' then column + (tabWidth - column % tabWidth)
  else column + 1

structure Fold where
  /-- How many columns a line may have. -/
  width : Nat
  /-- Whether lines are broken behind blanks where they can be. -/
  atBlanks : Bool
  /-- Whether every character takes one column. -/
  byBytes : Bool

def Fold.after (f : Fold) (column : Nat) (c : Char) : Nat :=
  if f.byBytes then column + 1 else columnAfter column c

/-- Adds a character to the line in progress, whose last character comes first. What is finished
comes with it. -/
def foldChar (f : Fold) (c : Char) : Nat → Nat → List Char → List Char × Nat × List Char
  | 0, column, held => ([], column, c :: held)
  | limit + 1, column, held =>
    let next := f.after column c
    if next ≤ f.width then ([], next, c :: held)
    else
      let tail := held.takeWhile fun x => !isSpace x
      let start := held.drop tail.length
      if f.atBlanks ∧ !start.isEmpty then
        let (done, state) := foldChar f c limit (tail.reverse.foldl f.after 0) tail
        (start.reverse ++ '\n' :: done, state)
      else if held.isEmpty then ([], next, [c])
      else
        let (done, state) := foldChar f c limit 0 []
        (held.reverse ++ '\n' :: done, state)

def foldFrom (f : Fold) : Nat → List Char → List Char → List Char
  | _, held, [] => held.reverse
  | column, held, c :: rest =>
    if c = '\n' then held.reverse ++ '\n' :: foldFrom f 0 [] rest
    else
      let (done, column, held) := foldChar f c (held.length + 2) column held
      done ++ foldFrom f column held rest

def foldLines : Tool :=
  withOptions
    { flags := ['s', 'b'], valued := ['w'], counted := some 'w',
      long := [("width", 'w'), ("spaces", 's'), ("bytes", 'b')] } 1 fun _ name i => do
    let width := (i.value? 'w').getD "80"
    match Size.between? 1 Size.greatest width with
    | .error reason =>
      complain name ("invalid number of columns: " ++ quotedText width ++ reason)
    | .ok n =>
      let f : Fold := { width := n.toNat, atBlanks := i.has 's', byBytes := i.has 'b' }
      forInputs name i.operands fun _ b => printChars (foldFrom f 0 [] (chars b))

structure Tabs where
  /-- The stops, in order. -/
  stops : List Nat := []
  /-- How far stops stand apart behind the last one, if there are more. -/
  step : Option Nat := none
  /-- Whether those are counted from the last stop and not from the start of the line. -/
  fromLast : Bool := false

def Tabs.after? (t : Tabs) (column : Nat) : Option Nat :=
  match t.stops.find? (column < ·) with
  | some stop => some stop
  | none => t.step.map fun step =>
    let origin := if t.fromLast then t.stops.getLast?.getD 0 else 0
    column + (step - (column - origin) % step)

/-- What can be wrong with a list of stops. -/
inductive TabFault where
  | strange (text : String)
  | zero
  | notAscending
  | tooLarge (text : String)
  | notLast (sign : Char)
  | exclusive

def TabFault.message : TabFault → String
  | .strange text => "tab size contains invalid character(s): " ++ quotedText text
  | .zero => "tab size cannot be 0"
  | .notAscending => "tab sizes must be ascending"
  | .tooLarge text => "tab stop is too large " ++ quotedText text
  | .notLast sign => quoted (String.ofList [sign]) ++ " specifier only allowed with the last value"
  | .exclusive => quoted "/" ++ " specifier is mutually exclusive with " ++ quoted "+"

/-- A stop of a list, with the sign before it if there is one. -/
structure TabStop where
  sign : Option Char
  place : Nat

/-- The stops that a text names, apart by commas or blanks. -/
def tabStopsUpTo : Nat → List Char → Except TabFault (List TabStop)
  | 0, _ => .ok []
  | limit + 1, cs => do
    match cs with
    | [] => return []
    | c :: rest =>
      if c = ',' ∨ isSpace c then tabStopsUpTo limit rest
      else
        let (sign, cs) := if c = '/' ∨ c = '+' then (some c, rest) else (none, cs)
        let digits := cs.takeWhile Char.isDigit
        let after := cs.drop digits.length
        let n := Numeral.ofDigits 10 digits
        if Size.greatest < n then throw (.tooLarge (String.ofList digits))
        else if digits.isEmpty ∧ !after.isEmpty ∧ !after.head?.any fun d => d = ',' ∨ isSpace d then
          throw (.strange (String.ofList after))
        else
          match after with
          | [] => return [⟨sign, n⟩]
          | d :: more =>
            if d = ',' ∨ isSpace d then return ⟨sign, n⟩ :: (← tabStopsUpTo limit more)
            else if d = '/' ∨ d = '+' then throw (.notLast d)
            else throw (.strange (String.ofList after))

def isAscending : List Nat → Bool
  | a :: b :: rest => a < b && isAscending (b :: rest)
  | _ => true

/-- The stops of the lists that options give. -/
def tabsOf (texts : List String) : Except TabFault Tabs := do
  let all := (← texts.mapM fun t => tabStopsUpTo (t.length + 1) t.toList).flatten
  let plain := all.filter (·.sign.isNone)
  let signed := all.filter (·.sign.isSome)
  match (all.dropLast.find? (·.sign.isSome)).bind (·.sign) with
  | some sign => if signed.length > 1 then throw .exclusive else throw (.notLast sign)
  | none => pure ()
  if plain.any (·.place = 0) then throw .zero
  let stops := plain.map (·.place)
  if !isAscending stops then throw .notAscending
  match signed, stops with
  | s :: _, _ =>
    let step := if s.place = 0 then none else some s.place
    return { stops, step, fromLast := s.sign = some '+' }
  | [], [] => return { step := some tabWidth }
  | [], [stop] => return { step := some stop }
  | [], _ => return { stops }

/-- How far a line is read, for the replacement of tabs or of blanks. -/
structure TabScan where
  column : Nat := 0
  /-- Whether replacements are still made on the line. -/
  converts : Bool := true

/-- A text with its tabs replaced, on whole lines or only where they start. -/
def expandFrom (t : Tabs) (wholeLines : Bool) : TabScan → List Char → List Char
  | _, [] => []
  | s, c :: rest =>
    if c = '\n' then c :: expandFrom t wholeLines {} rest
    else if !s.converts then c :: expandFrom t wholeLines s rest
    else if c = '\t' then
      let next := (t.after? s.column).getD (s.column + 1)
      List.replicate (next - s.column) ' ' ++
        expandFrom t wholeLines { s with column := next } rest
    else
      let column := if c = Char.ofNat 8 then s.column - 1 else s.column + 1
      c :: expandFrom t wholeLines { column, converts := wholeLines || isSpace c } rest

/-- Blanks that wait to be replaced. -/
structure Blanks where
  scan : TabScan := {}
  /-- The blanks that are not printed yet. -/
  pending : List Char := []
  /-- Whether the first of them stands just before a stop. -/
  isBeforeStop : Bool := false
  afterBlank : Bool := true

/-- The blanks that wait, as they are printed; one just before a stop is part of a tab if more
follow. -/
def Blanks.text (s : Blanks) : List Char :=
  if s.pending.length > 1 ∧ s.isBeforeStop then '\t' :: s.pending.drop 1 else s.pending

def unexpandFrom (t : Tabs) (wholeLines : Bool) : Blanks → List Char → List Char
  | s, [] => s.text
  | s, c :: rest =>
    let leave := fun (s : Blanks) (c : Char) (isBlank : Bool) =>
      let next : Blanks :=
        { scan := { s.scan with converts := s.scan.converts && (wholeLines || isBlank) },
          afterBlank := isBlank }
      s.text ++ c :: unexpandFrom t wholeLines next rest
    if c = '\n' then s.text ++ c :: unexpandFrom t wholeLines {} rest
    else if !s.scan.converts then c :: unexpandFrom t wholeLines s rest
    else if isSpace c then
      match t.after? s.scan.column with
      | none => leave { s with scan := { s.scan with converts := false } } c true
      | some stop =>
        let kept := if s.isBeforeStop then s.pending.take 1 else []
        if c = '\t' then
          let kept := if s.isBeforeStop then ['\t'] else kept
          leave { s with scan := { s.scan with column := stop }, pending := kept } c true
        else
          let column := s.scan.column + 1
          let s := { s with scan := { s.scan with column } }
          if s.afterBlank ∧ column = stop then
            let kept := if s.isBeforeStop then ['\t'] else []
            leave { s with pending := kept } '\t' true
          else
            unexpandFrom t wholeLines
              { s with
                pending := s.pending ++ [c], afterBlank := true,
                isBeforeStop := s.isBeforeStop || column = stop } rest
    else
      let column := if c = Char.ofNat 8 then s.scan.column - 1 else s.scan.column + 1
      leave { s with scan := { s.scan with column } } c false

/-- Arguments in which lists of digits stand for the value of an option. -/
def withTabDigits (arguments : List String) : List String :=
  arguments.map fun a =>
    match a.toList with
    | '-' :: c :: rest =>
      if c.isDigit ∧ (c :: rest).all fun x => x.isDigit ∨ x = ',' then
        "-t" ++ String.ofList (c :: rest)
      else a
    | _ => a

def replaceTabs (options : OptionTable)
    (replace : Tabs → Invocation → List Char → List Char) : Tool := fun r name arguments =>
  withOptions options 1 (fun _ name i => do
    match tabsOf (i.options.filterMap fun o => if o.1 = 't' then some o.2 else none) with
    | .error f => complain name f.message
    | .ok t =>
      let (all, status) ← contents name i.operands
      printChars (replace t i (all.flatMap chars))
      return status) r name (withTabDigits arguments)

def expandTabs : Tool :=
  replaceTabs { flags := ['i'], valued := ['t'], long := [("initial", 'i'), ("tabs", 't')] }
    fun t i => expandFrom t (!i.has 'i') {}

def makeTabs : Tool :=
  replaceTabs
    { flags := ['a', 'φ'], valued := ['t'],
      long := [("all", 'a'), ("first-only", 'φ'), ("tabs", 't')] }
    fun t i => unexpandFrom t ((i.has 'a' || i.has 't') && !i.has 'φ') {}

end WasmBundle.Shell.Tool
