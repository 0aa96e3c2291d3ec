import WasmBundle.Shell.Arithmetic
import WasmBundle.Shell.Pattern

/-!
# Expansion

What words stand for when a command runs. A word expands to marks: characters with where they come
from, and what holds or separates fields. Only what comes from an unquoted expansion is split, at
the separators in `IFS`; then unquoted patterns are replaced by the names they fit.
-/

namespace WasmBundle.Shell

/-- Where a character of an expanded word comes from. -/
inductive Origin where
  | written
  | expanded
  | quoted
  deriving DecidableEq, Repr

inductive Mark where
  | char (c : Char) (origin : Origin)
  /-- Quotes, which make a field even of nothing. -/
  | quotes
  /-- The border between two arguments. -/
  | border
  deriving DecidableEq, Repr

namespace Expansion

open Running

def separators (p : Process) : List Char :=
  ((value? p "IFS").getD " \t\n").toList

def joint (p : Process) : String :=
  match value? p "IFS" with
  | none => " "
  | some text => String.ofList (text.toList.take 1)

def isAllArguments (name : String) : Bool := name = "@" ∨ name = "*"

/-- The value of a parameter, if it has one. -/
def parameter? (p : Process) (name : String) : Option String :=
  match name with
  | "@" => if p.arguments.isEmpty then none else some ((joint p).intercalate p.arguments)
  | "*" => if p.arguments.isEmpty then none else some ((joint p).intercalate p.arguments)
  | "#" => some (toString p.arguments.length)
  | "?" => some (toString p.status)
  | "$" => some (toString shellNumber)
  | "!" => if p.lastTask = shellNumber then none else some (toString p.lastTask)
  | "-" => some (String.ofList p.options)
  | _ =>
    match Numeral.count? name with
    | some 0 => some p.name
    | some n => p.arguments[n - 1]?
    | none => value? p name

def marks (origin : Origin) (text : String) : List Mark := text.toList.map fun c => .char c origin

def valueMarks (p : Process) (splits quoted : Bool) (name : String) : List Mark :=
  let origin := if quoted then Origin.quoted else Origin.expanded
  if splits ∧ isAllArguments name ∧ (!quoted ∨ name = "@") then
    let parts := p.arguments.map fun a => (if quoted then [.quotes] else []) ++ marks origin a
    (parts.intersperse [.border]).flatten
  else marks origin ((parameter? p name).getD "")

def notSet {α : Type} (name : String) (alsoEmpty : Bool) : Running α :=
  fail (name ++ ": parameter not set" ++ (if alsoEmpty then " or null" else ""))

def isMissing (p : Process) (alsoEmpty : Bool) (name : String) : Bool :=
  match parameter? p name with
  | none => true
  | some text => alsoEmpty && text.isEmpty

/-- Refuses a parameter without a value where the options say so. -/
def demandSet (name : String) : Running Unit := do
  let p ← get
  if hasOption p 'u' ∧ (parameter? p name).isNone ∧ !isAllArguments name then notSet name false

def Mark.char? : Mark → Option Char
  | .char c _ => some c
  | _ => none

def textOf (l : List Mark) : String := String.ofList (l.filterMap Mark.char?)

def glyphsOf (l : List Mark) : List Glyph :=
  l.filterMap fun
    | .char c origin => some ⟨c, origin == .quoted⟩
    | _ => none

/-- The marks of an operand, which is split where what it stands for would be. -/
def asOperand (l : List Mark) : List Mark :=
  l.map fun
    | .char c .written => .char c .expanded
    | m => m

/-- A tilde at the start of a word stands for the home directory. -/
def homeMarks? (p : Process) (text : String) (isWhole : Bool) : Option (List Mark) := do
  match text.toList with
  | '~' :: rest =>
    let user := rest.takeWhile (· ≠ '/')
    let after := rest.drop user.length
    if after.isEmpty ∧ !isWhole then none
    else
      let home ← if user.isEmpty then value? p "HOME" else none
      return marks .quoted home ++ marks .written (String.ofList after)
  | _ => none

mutual

/-- What a fragment stands for. `capture` gives the output of a command. -/
def fragment (capture : Command → Running String) (splits : Bool) :
    Fragment → Running (List Mark)
  | .literal text quoted =>
    return if quoted ∧ text.isEmpty then [.quotes]
      else marks (if quoted then .quoted else .written) text
  | .substitution body quoted => do
    return marks (if quoted then .quoted else .expanded) (← capture body)
  | .arithmetic expression quoted => do
    let text ← fragments capture false expression
    return marks (if quoted then .quoted else .expanded) (← Arithmetic.run (textOf text))
  | .parameter name u operand quoted =>
    match u with
    | .malformed => fail "Bad substitution"
    | .value => do
      demandSet name
      return valueMarks (← get) splits quoted name
    | .length => do
      demandSet name
      let n := ((parameter? (← get) name).getD "").length
      return marks (if quoted then .quoted else .expanded) (toString n)
    | .fallback alsoEmpty => do
      if isMissing (← get) alsoEmpty name then
        return asOperand (← fragments capture splits operand)
      else return valueMarks (← get) splits quoted name
    | .replace alsoEmpty => do
      if isMissing (← get) alsoEmpty name then return []
      else return asOperand (← fragments capture splits operand)
    | .assign alsoEmpty => do
      if isMissing (← get) alsoEmpty name then
        let text := textOf (← fragments capture false operand)
        if isName name.toList then assign name text
        else fail (name ++ ": bad variable name")
      return valueMarks (← get) splits quoted name
    | .demand alsoEmpty => do
      if isMissing (← get) alsoEmpty name then
        let text := textOf (← fragments capture false operand)
        if operand.isEmpty then notSet name alsoEmpty else fail (name ++ ": " ++ text)
      else return valueMarks (← get) splits quoted name
    | .trim atEnd longest => do
      demandSet name
      let pattern := Pattern.ofGlyphs (glyphsOf (← fragments capture false operand))
      let text := ((parameter? (← get) name).getD "").toList
      return marks (if quoted then .quoted else .expanded)
        (String.ofList (Pattern.trim pattern atEnd longest text))

/-- What fragments stand for, one after another. -/
def fragments (capture : Command → Running String) (splits : Bool) :
    List Fragment → Running (List Mark)
  | [] => return []
  | f :: rest => do
    let first ← fragment capture splits f
    return first ++ (← fragments capture splits rest)

end

/-- What a word stands for, with a tilde at its start. -/
def word (capture : Command → Running String) (splits : Bool) (w : Word) : Running (List Mark) := do
  match w with
  | .literal text false :: rest =>
    match homeMarks? (← get) text rest.isEmpty with
    | some l => return l ++ (← fragments capture splits rest)
    | none => fragments capture splits w
  | _ => fragments capture splits w

def text (capture : Command → Running String) (w : Word) : Running String := do
  return textOf (← word capture false w)

/-- Marks of a text in which parts between colons may start with a tilde. -/
def pathMarks (p : Process) (isFirst isLast : Bool) : List (List Char) → List Mark
  | [] => []
  | part :: rest =>
    let text := String.ofList part
    let found := if isFirst then homeMarks? p text (isLast || !rest.isEmpty) else none
    let l := found.getD (marks .written text)
    if rest.isEmpty then l else l ++ marks .written ":" ++ pathMarks p true isLast rest

/-- The marks of fragments that are the value of a variable. -/
def valueParts (capture : Command → Running String) (isFirst : Bool) :
    List Fragment → Running (List Mark)
  | [] => return []
  | .literal text false :: rest => do
    let l := pathMarks (← get) isFirst rest.isEmpty (splitAtSeparator ':' text.toList)
    return l ++ (← valueParts capture (text.toList.getLast? = some ':') rest)
  | f :: rest => do
    let l ← fragment capture false f
    return l ++ (← valueParts capture false rest)

/-- The text of a word that is the value of a variable. -/
def assignedText (capture : Command → Running String) (w : Word) : Running String := do
  return textOf (← valueParts capture true w)

def pattern (capture : Command → Running String) (w : Word) : Running Pattern := do
  return Pattern.ofGlyphs (glyphsOf (← word capture false w))

structure Split where
  /-- The fields that are over, the last one first. -/
  done : List (List Glyph) := []
  /-- The field in progress, its last character first. -/
  field : Option (List Glyph) := none
  /-- Whether a blank ended the last field, so that a separator may still follow it. -/
  afterBlank : Bool := false

namespace Split

def close (s : Split) : Split :=
  match s.field with
  | some f => { s with done := f.reverse :: s.done, field := none }
  | none => s

def add (s : Split) (g : Glyph) : Split :=
  { s with field := some (g :: s.field.getD []), afterBlank := false }

/-- The fields after a separator that is no blank: each ends a field, even an empty one. -/
def separate (s : Split) : Split :=
  if s.field.isSome then { s.close with afterBlank := false }
  else if s.afterBlank then { s with afterBlank := false }
  else { s with done := [] :: s.done }

def accept (separators : List Char) (s : Split) : Mark → Split
  | .quotes => { s with field := some (s.field.getD []) }
  | .border => { s.close with afterBlank := false }
  | .char c origin =>
    if origin = .expanded ∧ separators.contains c then
      if c = ' ' ∨ c = '\t' ∨ c = '\n' then
        if s.field.isSome then { s.close with afterBlank := true } else s
      else s.separate
    else s.add ⟨c, origin == .quoted⟩

end Split

def split (separators : List Char) (l : List Mark) : List (List Glyph) :=
  (l.foldl (Split.accept separators) {}).close.done.reverse

def segments : List Glyph → List (List Glyph)
  | [] => [[]]
  | g :: rest =>
    if g.char = '/' then [] :: segments rest
    else
      match segments rest with
      | [] => [[g]]
      | s :: t => (g :: s) :: t

/-- The names in a directory that fit a part of a pattern. Names that start with a dot fit only
where the pattern has the dot. -/
def namesFitting (segment : List Glyph) (dir : String) : Running (List String) := do
  let p := pathOf (if dir.isEmpty then "." else dir)
  onDisk (OnDisk.consult [.listing p])
  let d := (← onDisk get).disk
  let pattern := Pattern.ofGlyphs segment
  let showsHidden := segment.head?.any (·.char = '.')
  match d.locate p with
  | .ok l =>
    if d.isDirectoryAt l then
      let names := [".", ".."] ++ (d.namesIn l).map ofOctets
      return names.filter fun name =>
        (showsHidden || name.toList.head? != some '.') && pattern.fits name.toList
    else return []
  | .error _ => return []

/-- The paths that fit the parts of a pattern, each begun by a text. -/
def pathsFitting (start : String) : List (List Glyph) → Running (List String)
  | [] => return [start]
  | segment :: rest => do
    let ending := if rest.isEmpty then "" else "/"
    if Pattern.isOpen segment then
      let names ← namesFitting segment start
      let found ← names.mapM fun name => pathsFitting (start ++ name ++ ending) rest
      return found.flatten
    else
      let name := String.ofList (segment.map (·.char))
      if rest.isEmpty ∧ name.isEmpty then return [start]
      else
        let found ← pathsFitting (start ++ name ++ ending) rest
        return found

def isThere (text : String) : Running Bool := do
  return (← onDisk (OnDisk.findEntry (pathOf text))) matches .ok _

/-- What a field stands for: the names it fits, or itself. -/
def names (gs : List Glyph) : Running (List String) := do
  let itself := String.ofList (gs.map (·.char))
  if !Pattern.isOpen gs ∨ hasOption (← get) 'f' then return [itself]
  else
    let found ← (← pathsFitting "" (segments gs)).filterM isThere
    return if found.isEmpty then [itself] else found.mergeSort fun a b => decide (a ≤ b)

def fields (capture : Command → Running String) (w : Word) : Running (List String) := do
  let l ← word capture true w
  let separated := split (separators (← get)) l
  return (← separated.mapM names).flatten

end Expansion

end WasmBundle.Shell
