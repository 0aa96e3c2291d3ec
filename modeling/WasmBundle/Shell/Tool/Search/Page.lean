import WasmBundle.Shell.Regex
import WasmBundle.Shell.Tool.Lines

/-!
# Selected lines

What lines are searched for, and where it is found in a line: of several expressions the match
counts that starts leftmost, and of those the longest. The lines that a search selects, with lines
around them, and how they are shown: under the name of their file, with their numbers and places, as
a whole or only what was found in them.
-/

namespace WasmBundle.Shell.Search

structure Query where
  patterns : List Regex
  ignoresCase : Bool := false
  wholeLine : Bool := false
  wholeWord : Bool := false

def Query.admits (q : Query) (s : Regex.Subject) (start finish : Nat) : Bool :=
  (!q.wholeLine || (start = 0 && finish = s.text.size)) &&
    (!q.wholeWord || (!s.beforeIsWord start && !s.isWord finish))

/-- The best match of an expression from a place on that counts. -/
def matchFrom (q : Query) (s : Regex.Subject) (r : Regex) : Nat → Nat → Option (Nat × Nat)
  | 0, _ => none
  | limit + 1, place =>
    let all := (Regex.matchesFrom s r { place }).filter fun m => q.admits s place m.place
    match Regex.longest all with
    | some m => some (place, m.place)
    | none => matchFrom q s r limit (place + 1)

/-- Of two matches the one further to the left, or the longer one. -/
def better : Option (Nat × Nat) → Option (Nat × Nat) → Option (Nat × Nat)
  | none, m => m
  | m, none => m
  | some (a, b), some (c, d) => if c < a ∨ (c = a ∧ b < d) then some (c, d) else some (a, b)

def Query.findFrom (q : Query) (s : Regex.Subject) (place : Nat) : Option (Nat × Nat) :=
  (q.patterns.map fun r => matchFrom q s r (s.text.size + 1 - place) place).foldl better none

def Query.subject (q : Query) (line : List Char) : Regex.Subject :=
  { text := line.toArray, ignoresCase := q.ignoresCase }

def Query.holds (q : Query) (line : List Char) : Bool := (q.findFrom (q.subject line) 0).isSome

/-- The places of all matches from a place on that are not empty. -/
def spansFrom (q : Query) (s : Regex.Subject) : Nat → Nat → List (Nat × Nat)
  | 0, _ => []
  | limit + 1, place =>
    match q.findFrom s place with
    | none => []
    | some (a, b) =>
      if a = b then spansFrom q s limit (b + 1) else (a, b) :: spansFrom q s limit b

def Query.spans (q : Query) (line : List Char) : List (Nat × Nat) :=
  spansFrom q (q.subject line) (line.length + 1) 0

open Tool

/-- A line of an input, with how many lines and characters stand before it. -/
structure Record where
  text : List Char
  index : Nat
  offset : Nat

def numbered : Nat → Nat → List (List Char) → List Record
  | _, _, [] => []
  | index, offset, text :: rest =>
    { text, index, offset } :: numbered (index + 1) (offset + text.length + 1) rest

structure Choice where
  query : Query
  /-- Whether the other lines are. -/
  inverted : Bool := false
  /-- How many lines at most. -/
  most : Option Nat := none
  /-- How many lines are shown before a selected one. -/
  before : Nat := 0
  /-- How many lines are shown behind it. -/
  after : Nat := 0
  /-- Whether groups of lines are kept apart. -/
  groups : Bool := false

/-- What is shown: a line, which is selected or stands near one that is, or a gap. -/
inductive Shown where
  | line (r : Record) (selected : Bool)
  | gap

/-- The lines of which the first of a text are selected, up to the greatest number. -/
def Choice.selected (c : Choice) (l : List Record) : List Record :=
  let found := l.filter fun r => c.query.holds r.text != c.inverted
  (c.most.map found.take).getD found

/-- The state of showing: the lines that may stand before the next selected one, the last one first,
how many are still shown, and where the next line would follow the last one that was shown. -/
structure Around where
  held : List Record := []
  pending : Nat := 0
  next : Option Nat := none

/-- What is shown of lines, given the numbers of those that are selected. `hasShown` says whether
something was shown before. -/
def Choice.shown (c : Choice) (chosen : List Nat) :
    Bool → Around → List Record → List Shown
  | _, _, [] => []
  | hasShown, a, r :: rest =>
    if chosen.contains r.index then
      let lines := (r :: a.held).reverse
      let first := (lines.head?.map (·.index)).getD r.index
      let gap := if c.groups && hasShown && a.next != some first then [Shown.gap] else []
      gap ++ a.held.reverse.map (Shown.line · false) ++ Shown.line r true ::
        c.shown chosen true { pending := c.after, next := some (r.index + 1) } rest
    else if 0 < a.pending then
      Shown.line r false ::
        c.shown chosen hasShown { a with pending := a.pending - 1, next := some (r.index + 1) }
          rest
    else c.shown chosen hasShown { a with held := (r :: a.held).take c.before } rest

structure Layout where
  /-- The name that stands before each of them. -/
  title : Option String := none
  numbers : Bool := false
  offsets : Bool := false
  /-- Whether only what was found is shown. -/
  onlyMatches : Bool := false
  /-- Whether a null character ends names. -/
  nullNames : Bool := false
  /-- Whether what stands before a line is brought to a column, with numbers at least so wide. -/
  aligned : Option Nat := none
  coloured : Bool := false
  sign : Char := '\n'
  /-- What is shown between groups of lines. -/
  separator : Option String := some "--"

def Layout.painted (l : Layout) (colour text : String) : String :=
  if l.coloured then "\x1b[" ++ colour ++ "m\x1b[K" ++ text ++ "\x1b[m\x1b[K" else text

def Layout.mark (l : Layout) (selected : Bool) : String :=
  l.painted "36" (if selected then ":" else "-")

def Layout.named (l : Layout) (selected : Bool) (name : String) : String :=
  l.painted "35" name ++ if l.nullNames then "\x00" else l.mark selected

/-- What stands before a line, or a part of it. -/
def Layout.heading (l : Layout) (selected : Bool) (r : Record) (offset length : Nat) : String :=
  let number := fun (n : Nat) =>
    l.painted "32" (Format.padded false ' ' (l.aligned.getD 0) (toString n)) ++ l.mark selected
  let isIndented := l.aligned.isSome && 0 < length && (l.title.isSome || l.numbers || l.offsets)
  (l.title.map (l.named selected)).getD "" ++
    (if l.numbers then number (r.index + 1) else "") ++
    (if l.offsets then number (r.offset + offset) else "") ++
    (if isIndented then "\t" else "")

def part (text : List Char) (span : Nat × Nat) : String :=
  String.ofList ((text.drop span.1).take (span.2 - span.1))

/-- A text from a place on with parts of it in colour. -/
def Layout.highlighted (l : Layout) (text : List Char) : Nat → List (Nat × Nat) → String
  | place, [] => part text (place, text.length)
  | place, span :: rest =>
    part text (place, span.1) ++ l.painted "01;31" (part text span) ++
      l.highlighted text span.2 rest

def Layout.line (l : Layout) (c : Choice) (r : Record) (selected : Bool) : String :=
  let hasMatch := selected != c.inverted
  let spans := if hasMatch ∧ (l.onlyMatches ∨ l.coloured) then c.query.spans r.text else []
  let ending := String.ofList [l.sign]
  if l.onlyMatches then
    String.join (spans.map fun s =>
      l.heading (!c.inverted) r s.1 (s.2 - s.1) ++ l.painted "01;31" (part r.text s) ++ ending)
  else
    l.heading selected r 0 r.text.length ++ l.highlighted r.text 0 spans ++ ending

def Layout.shown (l : Layout) (c : Choice) : Shown → String
  | .line r selected => l.line c r selected
  | .gap => (l.separator.map fun s => l.painted "36" s ++ "\n").getD ""

end WasmBundle.Shell.Search
