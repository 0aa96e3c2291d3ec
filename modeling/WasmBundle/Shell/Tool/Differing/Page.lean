import WasmBundle.Shell.Format
import WasmBundle.Shell.Tool.Differing.Changes
import WasmBundle.Shell.Tool.Lines

/-!
# Changes as text

How changes between two texts are shown: one by one, together with lines around them, as commands of
an editor, or with both texts side by side.
-/

namespace WasmBundle.Shell.Differing

open Tool

/-- Two texts as lines, which keep their line ends, with the changes between them. -/
structure Sheet where
  first : Array (List Char)
  second : Array (List Char)
  changes : List Change
  /-- Whether a change does not count. -/
  ignores : Change → Bool
  /-- Whether a tab stands before every line. -/
  tabbed : Bool := false
  /-- Whether tabs are shown as blanks. -/
  expands : Bool := false

namespace Sheet

/-- The lines of a text from one number on, up to another. -/
def between (l : Array (List Char)) (a b : Nat) : List (List Char) := (l.extract a b).toList

def removed (s : Sheet) (c : Change) : List (List Char) :=
  between s.first c.first (c.first + c.removed)

def added (s : Sheet) (c : Change) : List (List Char) :=
  between s.second c.second (c.second + c.added)

/-- A text with blanks for its tabs, behind a number of characters. -/
def expandFrom : Nat → List Char → List Char
  | _, [] => []
  | n, c :: rest =>
    if c = '\t' then List.replicate (8 - n % 8) ' ' ++ expandFrom 0 rest
    else c :: expandFrom (n + 1) rest

/-- A line behind a sign; a line that is not closed is told. -/
def line (s : Sheet) (sign : String) (gap : String) (text : List Char) : String :=
  let start := sign ++ (if s.tabbed then "\t" else gap)
  let text := if s.expands then expandFrom 0 text else text
  start ++ String.ofList text ++
    (if text.getLast? = some '\n' then "" else "\n\\ No newline at end of file\n")

/-- The line before which something is, and the last line of it, counted from one. -/
def rangeText (separator : String) (start count : Nat) : String :=
  if count ≤ 1 then toString (start + count)
  else toString (start + 1) ++ separator ++ toString (start + count)

/-- The letter of a change: lines come in, go out, or both. -/
def letter (c : Change) : String :=
  if c.removed = 0 then "a" else if c.added = 0 then "d" else "c"

def plainChange (s : Sheet) (c : Change) : String :=
  rangeText "," c.first c.removed ++ letter c ++ rangeText "," c.second c.added ++ "\n" ++
    String.join ((s.removed c).map (s.line "<" " ")) ++
    (if c.removed > 0 ∧ c.added > 0 then "---\n" else "") ++
    String.join ((s.added c).map (s.line ">" " "))

def counted (s : Sheet) : List Change := s.changes.filter fun c => !s.ignores c

def plain (s : Sheet) : String := String.join (s.counted.map s.plainChange)

/-- Changes that are so close that they are shown together. -/
def hunks (s : Sheet) (context : Nat) : List Change → List (List Change)
  | [] => []
  | c :: rest =>
    match s.hunks context rest with
    | (d :: others) :: more =>
      let gap := d.first - (c.first + c.removed)
      let enough := if s.ignores c || s.ignores d then context else 2 * context + 1
      if gap < enough then (c :: d :: others) :: more else [c] :: (d :: others) :: more
    | _ => [[c]]

/-- The parts of both texts that a hunk shows: starts and numbers of lines. -/
structure Window where
  first : Nat
  firstCount : Nat
  second : Nat
  secondCount : Nat

def window (s : Sheet) (context : Nat) (hunk : List Change) : Window :=
  let top := hunk.headD ⟨0, 0, 0, 0⟩
  let last := hunk.getLast?.getD top
  let first := top.first - min context top.first
  let second := top.second - min context top.second
  let firstEnd := min s.first.size (last.first + last.removed + context)
  let secondEnd := min s.second.size (last.second + last.added + context)
  { first, firstCount := firstEnd - first, second, secondCount := secondEnd - second }

def shownHunks (s : Sheet) (context : Nat) : List (List Change) :=
  (s.hunks context s.changes).filter fun h => h.any fun c => !s.ignores c

/-- The start and the number of lines as a hunk tells them. -/
def windowText (start count : Nat) : String :=
  if count = 0 then toString start ++ ",0"
  else if count = 1 then toString (start + 1)
  else toString (start + 1) ++ "," ++ toString count

def commonLine (s : Sheet) (text : List Char) : String :=
  s.line (if s.tabbed then "" else " ") "" text

/-- The lines of a hunk from a line of the first text on. -/
def unifiedLines (s : Sheet) (stop : Nat) : Nat → List Change → List String
  | place, [] => (between s.first place stop).map s.commonLine
  | place, c :: rest =>
    (between s.first place c.first).map s.commonLine ++
      (s.removed c).map (s.line "-" "") ++ (s.added c).map (s.line "+" "") ++
      s.unifiedLines stop (c.first + c.removed) rest

def unifiedHunk (s : Sheet) (context : Nat) (hunk : List Change) : String :=
  let w := s.window context hunk
  "@@ -" ++ windowText w.first w.firstCount ++ " +" ++ windowText w.second w.secondCount ++
    " @@\n" ++ String.join (s.unifiedLines (w.first + w.firstCount) w.first hunk)

def unified (s : Sheet) (context : Nat) : String :=
  String.join ((s.shownHunks context).map (s.unifiedHunk context))

/-- The lines of one side of a hunk: those of a change behind a sign, or behind another one where
the other side has lines too. -/
def sideLines (s : Sheet) (l : Array (List Char)) (sign : String)
    (part : Change → Nat × Nat × Nat) (stop : Nat) : Nat → List Change → List String
  | place, [] => (between l place stop).map (s.line " " " ")
  | place, c :: rest =>
    let (start, count, others) := part c
    (between l place start).map (s.line " " " ") ++
      (between l start (start + count)).map (s.line (if others > 0 then "!" else sign) " ") ++
      s.sideLines l sign part stop (start + count) rest

/-- The first and last line of a part of a text. -/
def sideRange (start count : Nat) : String :=
  if count ≤ 1 then toString (start + count)
  else toString (start + 1) ++ "," ++ toString (start + count)

def contextHunk (s : Sheet) (context : Nat) (hunk : List Change) : String :=
  let w := s.window context hunk
  let old := if hunk.any (·.removed > 0) then
      s.sideLines s.first "-" (fun c => (c.first, c.removed, c.added))
        (w.first + w.firstCount) w.first hunk
    else []
  let new := if hunk.any (·.added > 0) then
      s.sideLines s.second "+" (fun c => (c.second, c.added, c.removed))
        (w.second + w.secondCount) w.second hunk
    else []
  "***************\n*** " ++ sideRange w.first w.firstCount ++ " ****\n" ++ String.join old ++
    "--- " ++ sideRange w.second w.secondCount ++ " ----\n" ++ String.join new

def inContext (s : Sheet) (context : Nat) : String :=
  String.join ((s.shownHunks context).map (s.contextHunk context))

def closed (text : List Char) : String :=
  String.ofList (if text.getLast? = some '\n' then text else text ++ ['\n'])

/-- Lines that an editor puts in, with a way around the line that would end them. -/
def typed : Bool → List (List Char) → String
  | isOpen, [] => if isOpen then ".\n" else ""
  | isOpen, l :: rest =>
    let start := if isOpen then "" else "a\n"
    if l = ['.', '\n'] then start ++ "..\n.\ns/.//\n" ++ typed false rest
    else start ++ closed l ++ typed true rest

def editorChange (s : Sheet) (c : Change) : String :=
  rangeText "," c.first c.removed ++ letter c ++ "\n" ++
    (if c.added = 0 then "" else typed true (s.added c))

/-- Commands from the end to the start, so that line numbers stay right. -/
def editor (s : Sheet) : String := String.join (s.counted.reverse.map s.editorChange)

def forwardChange (s : Sheet) (c : Change) : String :=
  letter c ++ rangeText " " c.first c.removed ++ "\n" ++
    (if c.added = 0 then "" else String.join ((s.added c).map closed) ++ ".\n")

def forward (s : Sheet) : String := String.join (s.counted.map s.forwardChange)

def numberedChange (s : Sheet) (c : Change) : String :=
  (if c.removed = 0 then ""
  else "d" ++ toString (c.first + 1) ++ " " ++ toString c.removed ++ "\n") ++
    (if c.added = 0 then ""
    else
      "a" ++ toString (c.first + c.removed) ++ " " ++ toString c.added ++ "\n" ++
        String.join ((s.added c).map String.ofList))

def numbered (s : Sheet) : String := String.join (s.counted.map s.numberedChange)

structure Columns where
  half : Nat
  second : Nat
  expands : Bool
  /-- Whether lines that both texts have are shown on the left only, or not at all. -/
  leftOnly : Bool
  hidesCommon : Bool

def Columns.ofWidth (width : Nat) (expands leftOnly hidesCommon : Bool) : Columns :=
  let tab := if expands then 1 else 8
  let sum := tab + 3
  let loose := width / 2 + sum / 2 + (if width % 2 = 1 ∧ sum % 2 = 1 then 1 else 0)
  let offset := loose - loose % tab
  let half := min (offset - 3) (width - offset)
  { half, second := if half = 0 then width else offset, expands, leftOnly, hidesCommon }

def Columns.gap (x : Columns) : Nat → Nat → Nat → List Char
  | 0, _, _ => []
  | limit + 1, a, b =>
    let stop := a + 8 - a % 8
    if !x.expands ∧ stop ≤ b then '\t' :: x.gap limit stop b
    else List.replicate (b - a) ' '

/-- A line in the room of one side, and the column behind it. `seen` is the column in the line, and
`out` the one that is written up to. -/
def Columns.side (x : Columns) : Nat → Nat → List Char → List Char × Nat
  | _, out, [] => ([], out)
  | seen, out, c :: rest =>
    match c with
    | '\n' => ([], out)
    | '\t' =>
      let stop := seen + 8 - seen % 8
      if seen = out then
        if x.expands then
          let stop := min stop x.half
          let (shown, last) := x.side (seen + 8 - seen % 8) (max stop out) rest
          (List.replicate (stop - out) ' ' ++ shown, last)
        else if stop < x.half then
          let (shown, last) := x.side stop stop rest
          ('\t' :: shown, last)
        else x.side stop out rest
      else x.side stop out rest
    | _ =>
      if seen < x.half then
        let (shown, last) := x.side (seen + 1) (seen + 1) rest
        (c :: shown, last)
      else x.side (seen + 1) out rest

/-- A line of both texts, or of one of them, with a sign between. -/
def Columns.line (x : Columns) (a : Option (List Char)) (sign : Char) (b : Option (List Char)) :
    String :=
  let isClosed := fun (l : Option (List Char)) => l.any fun t => t.getLast? == some '\n'
  let (left, column) := (a.map (x.side 0 0)).getD ([], 0)
  let sign := if sign = '|' ∧ isClosed a ≠ isClosed b then if isClosed a then '/' else '\\'
    else sign
  let limit := x.half + x.second + 1
  let place := (x.half + x.second - 1) / 2
  let (middle, column) :=
    if sign = ' ' then ([], column)
    else (x.gap limit column place ++ [sign], max place column + 1)
  let right :=
    match b with
    | some text =>
      if text.head? = some '\n' then []
      else x.gap limit column x.second ++ (x.side 0 0 text).1
    | none => []
  String.ofList (left ++ middle ++ right) ++ (if isClosed a || isClosed b then "\n" else "")

def Columns.common (x : Columns) (l m : List (List Char)) : List String :=
  if x.hidesCommon then []
  else if x.leftOnly then l.map fun a => x.line (some a) '(' none
  else (l.zip m).map fun (a, b) => x.line (some a) ' ' (some b)

def besideFrom (s : Sheet) (x : Columns) : Nat → Nat → List Change → List String
  | i, j, [] =>
    x.common (between s.first i s.first.size) (between s.second j s.second.size)
  | i, j, c :: rest =>
    let old := s.removed c
    let new := s.added c
    x.common (between s.first i c.first) (between s.second j c.second) ++
      (old.zip new).map (fun (a, b) => x.line (some a) '|' (some b)) ++
      (new.drop old.length).map (fun b => x.line none '>' (some b)) ++
      (old.drop new.length).map (fun a => x.line (some a) '<' none) ++
      s.besideFrom x (c.first + c.removed) (c.second + c.added) rest

def beside (s : Sheet) (x : Columns) : String := String.join (s.besideFrom x 0 0 s.changes)

end Sheet

end WasmBundle.Shell.Differing
