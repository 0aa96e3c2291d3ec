import WasmBundle.Shell.Octets

/-!
# Patterns

Patterns of file names and of selections. A pattern is read from characters of which some are
quoted; quoted characters and all others but `*`, `?` and `[` stand for themselves.
-/

namespace WasmBundle.Shell

/-- A character, and whether it was quoted. -/
structure Glyph where
  char : Char
  quoted : Bool
  deriving DecidableEq, Repr

inductive Member where
  | range (low high : Char)
  | named (name : String)
  deriving DecidableEq, Repr

inductive Piece where
  | exactly (c : Char)
  | anyOne
  | anyText
  | oneOf (negated : Bool) (members : List Member)
  deriving DecidableEq, Repr

abbrev Pattern := List Piece

def inNamedClass (name : String) (c : Char) : Bool :=
  let n := c.toNat
  let isPunctuation := 33 ≤ n ∧ n ≤ 126 ∧ !c.isAlphanum
  match name with
  | "alpha" => c.isAlpha
  | "digit" => c.isDigit
  | "alnum" => c.isAlphanum
  | "upper" => c.isUpper
  | "lower" => c.isLower
  | "space" => c = ' ' ∨ (9 ≤ n ∧ n ≤ 13)
  | "blank" => c = ' ' ∨ c = '\t'
  | "punct" => isPunctuation
  | "cntrl" => n < 32 ∨ n = 127
  | "print" => 32 ≤ n ∧ n ≤ 126
  | "graph" => 33 ≤ n ∧ n ≤ 126
  | "xdigit" => c.isDigit ∨ ('a' ≤ c ∧ c ≤ 'f') ∨ ('A' ≤ c ∧ c ≤ 'F')
  | _ => false

def Member.holds (c : Char) : Member → Bool
  | .range low high => low ≤ c && c ≤ high
  | .named name => inNamedClass name c

namespace Pattern

def isPlain (c : Char) (g : Glyph) : Bool := g.char = c && !g.quoted

/-- The name of a class, and what follows it. -/
def className? (gs : List Glyph) : Option (String × List Glyph) :=
  match gs with
  | a :: b :: rest =>
    if isPlain '[' a && b.char = ':' then
      let name := rest.takeWhile fun g => g.char.isAlpha
      match rest.drop name.length with
      | c :: d :: after =>
        if c.char = ':' ∧ d.char = ']' then
          some (String.ofList (name.map (·.char)), after)
        else none
      | _ => none
    else none
  | _ => none

/-- The members of a bracket up to its end, with what follows; none if it has no end. -/
def members? : Nat → Bool → List Glyph → Option (List Member × List Glyph)
  | 0, _, _ => none
  | limit + 1, isFirst, gs => do
    match className? gs with
    | some (name, rest) =>
      let (others, after) ← members? limit false rest
      return (.named name :: others, after)
    | none =>
      match gs with
      | [] => none
      | g :: rest =>
        if isPlain ']' g && !isFirst then return ([], rest)
        else
          match rest with
          | d :: e :: after =>
            if isPlain '-' d && !isPlain ']' e then
              let (others, left) ← members? limit false after
              return (.range g.char e.char :: others, left)
            else
              let (others, left) ← members? limit false rest
              return (.range g.char g.char :: others, left)
          | _ =>
            let (others, left) ← members? limit false rest
            return (.range g.char g.char :: others, left)

def bracket? (gs : List Glyph) : Option (Piece × List Glyph) := do
  match gs with
  | [] => none
  | g :: rest =>
    let negated := isPlain '!' g
    let (l, after) ← members? (gs.length + 1) true (if negated then rest else gs)
    return (.oneOf negated l, after)

def ofGlyphsUpTo : Nat → List Glyph → Pattern
  | 0, _ => []
  | _, [] => []
  | limit + 1, g :: rest =>
    if g.quoted then .exactly g.char :: ofGlyphsUpTo limit rest
    else
      match g.char, rest with
      | '*', _ => .anyText :: ofGlyphsUpTo limit rest
      | '?', _ => .anyOne :: ofGlyphsUpTo limit rest
      | '\\', next :: after => .exactly next.char :: ofGlyphsUpTo limit after
      | '[', _ =>
        match bracket? rest with
        | some (p, after) => p :: ofGlyphsUpTo limit after
        | none => .exactly '[' :: ofGlyphsUpTo limit rest
      | c, _ => .exactly c :: ofGlyphsUpTo limit rest

def ofGlyphs (gs : List Glyph) : Pattern := ofGlyphsUpTo gs.length gs

/-- The pattern of a text in which nothing is quoted but by backslashes. -/
def ofText (text : String) : Pattern := ofGlyphs (text.toList.map fun c => ⟨c, false⟩)

def accepts (p : Piece) (c : Char) : Bool :=
  match p with
  | .exactly d => c = d
  | .anyOne => true
  | .anyText => true
  | .oneOf negated l => l.any (Member.holds c) != negated

def isOpen (gs : List Glyph) : Bool :=
  gs.any fun g => !g.quoted && (g.char = '*' || g.char = '?' || g.char = '[')

/-- The places reached from some of the places of a text through any text. -/
def onward : Bool → List Bool → List Bool
  | _, [] => []
  | before, r :: rest => (before || r) :: onward (before || r) rest

/-- Which places of a text are reached through a piece from those that were reached before. -/
def advance (cs : List Char) (reached : List Bool) (p : Piece) : List Bool :=
  match p with
  | .anyText => onward false reached
  | _ => false :: List.zipWith (fun r c => r && accepts p c) reached cs

/-- For every length, whether the start of a text that has it fits. -/
def fittingStarts (p : Pattern) (cs : List Char) : List Bool :=
  p.foldl (advance cs) (true :: cs.map fun _ => false)

def fits (p : Pattern) (cs : List Char) : Bool := (p.fittingStarts cs).getLast?.getD false

/-- A text without what fits at its start, the shortest or the longest part. -/
def trimStart (p : Pattern) (longest : Bool) (cs : List Char) : List Char :=
  let starts := p.fittingStarts cs
  let place :=
    if longest then (starts.reverse.findIdx? id).map fun n => cs.length - n
    else starts.findIdx? id
  cs.drop (place.getD 0)

/-- A text without what fits at one of its ends, the shortest or the longest part. -/
def trim (p : Pattern) (atEnd longest : Bool) (cs : List Char) : List Char :=
  if atEnd then (trimStart p.reverse longest cs.reverse).reverse else trimStart p longest cs

end Pattern

end WasmBundle.Shell
