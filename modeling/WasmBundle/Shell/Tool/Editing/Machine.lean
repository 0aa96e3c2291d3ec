import WasmBundle.Shell.Tool.Editing.Script

/-!
# Editing line by line

A program is carried out on every line. The line is worked on in a space of its own; a second space
keeps text between lines. What is shown and what goes to files is collected as the work goes on.
-/

namespace WasmBundle.Shell.Editing

structure Written where
  /-- The parts, the last one first. -/
  parts : List (List Char) := []
  /-- Whether the last line lacks its end, since the line it was made of did. -/
  isOpen : Bool := false

/-- Adds text as it is; a line without an end is ended first. -/
def Written.add (sign : Char) (w : Written) (text : List Char) : Written :=
  { parts := text :: (if w.isOpen then [[sign]] else []) ++ w.parts }

/-- Adds a line, with its end if it has one. -/
def Written.addLine (sign : Char) (w : Written) (line : List Char) (isClosed : Bool) : Written :=
  { w.add sign (if isClosed then line ++ [sign] else line) with isOpen := !isClosed }

def Written.text (w : Written) : List Char := w.parts.reverse.flatten

structure Line where
  text : List Char
  isClosed : Bool
  /-- The name of the file that it is from. -/
  file : String

structure Edit where
  /-- The lines to come. -/
  left : List Line
  space : List Char := []
  isClosed : Bool := true
  file : String := "-"
  held : List Char := []
  heldIsClosed : Bool := true
  line : Nat := 0
  lastWanted : Option Wanted := none
  /-- The ranges in progress, by the places of their instructions, with the lines they end at. -/
  ranges : List (Nat × Nat) := []
  substituted : Bool := false
  /-- What follows the line that is shown next. -/
  queued : List (List Char) := []
  /-- What is shown. -/
  shown : Written := {}
  /-- What is written to files. -/
  files : List (String × Written) := []
  /-- What is left of the files that are read line by line. -/
  sources : List (String × List (List Char)) := []
  fault : Option Fault := none

inductive Ending where
  | shows
  | deletes
  /-- Goes on with what is left of the line. -/
  | again
  | quits (status : Nat) (prints : Bool)
  | fails (f : Fault)

structure Setting where
  quiet : Bool
  program : Array Instruction
  /-- The sign that ends lines. -/
  sign : Char := '\n'
  /-- How wide a line is at most that is shown with all its signs. -/
  width : Nat := 70
  /-- The texts of files that are added. -/
  additions : List (String × List Char) := []
  /-- Whether a file that is edited in its place receives what is shown. -/
  inPlace : Bool := false

def Edit.isLast (e : Edit) : Bool := e.left.isEmpty

def Edit.withText (s : Setting) (e : Edit) (text : List Char) : Edit :=
  { e with shown := e.shown.add s.sign text }

/-- Shows a line, which has an end if the line that is worked on has. -/
def Edit.withLine (s : Setting) (e : Edit) (line : List Char) : Edit :=
  { e with shown := e.shown.addLine s.sign line e.isClosed }

/-- Writes a line to a file; the name of the output stands for what is shown. -/
def Edit.writing (s : Setting) (e : Edit) (path : String) (line : List Char) : Edit :=
  if path = "/dev/stdout" ∧ !s.inPlace then e.withLine s line
  else
    let before := (e.files.lookup path).getD {}
    let after := before.addLine s.sign line e.isClosed
    { e with files := e.files.filter (·.1 != path) ++ [(path, after)] }

/-- The expression that counts and the edit that remembers it. -/
def used (e : Edit) (w : Option Wanted) : Wanted × Edit :=
  match w.or e.lastWanted with
  | some x => (x, { e with lastWanted := some x })
  | none => ({ regex := .empty }, { e with fault := some .noPrevious })

def subject (e : Edit) (w : Wanted) : Regex.Subject :=
  { text := e.space.toArray, ignoresCase := w.ignoresCase, hasLines := w.hasLines }

def addressed (e : Edit) : Address → Bool × Edit
  | .line n => (e.line = n, e)
  | .last => (e.isLast, e)
  | .matching w =>
    let (x, e) := used e w
    ((Regex.search (subject e x) x.regex 0).isSome, e)
  | .stepped first step => (first ≤ e.line && (e.line - first) % step = 0, e)
  | _ => (false, e)

def openEnd : Nat := 0

/-- Whether a selection includes the line; ranges begin and end. -/
def selects (place : Nat) (s : Selection) (e : Edit) : Bool × Edit :=
  let turn := fun (r : Bool × Edit) => (r.1 != s.negated, r.2)
  let without := fun (e : Edit) => { e with ranges := e.ranges.filter (·.1 != place) }
  match s.first, s.second with
  | none, _ => turn (true, e)
  | some a, none => turn (addressed e a)
  | some a, some b =>
    match e.ranges.lookup place with
    | some stop =>
      if stop ≠ openEnd then
        if e.line < stop then turn (true, e)
        else turn (e.line = stop, without e)
      else
        let (ends, e) := addressed e b
        turn (true, if ends then without e else e)
    | none =>
      let zero : Bool := match a with
        | .line 0 => e.line = 1
        | _ => false
      let (starts, e) := if zero then (false, e) else addressed e a
      if zero then
        let (ends, e) := addressed e b
        turn (true, if ends then e else { e with ranges := (place, openEnd) :: e.ranges })
      else if !starts then turn (false, e)
      else
        let upTo := fun (stop : Nat) =>
          if stop ≤ e.line then e else { e with ranges := (place, stop) :: e.ranges }
        match b with
        | .line n => turn (true, upTo n)
        | .after n => turn (true, upTo (e.line + n))
        | .upToMultiple n => turn (true, if n = 0 then e else upTo (e.line + (n - e.line % n)))
        | .last =>
          turn (true, if e.isLast then e else { e with ranges := (place, openEnd) :: e.ranges })
        | _ => turn (true, { e with ranges := (place, openEnd) :: e.ranges })

def changedCase (change : Option CaseChange) (c : Char) : Char :=
  match change with
  | some .upper => c.toUpper
  | some .lower => c.toLower
  | none => c

/-- What replaces a match. The case is changed as `all` says, and that of the next character as
`next` says if it says anything. -/
def replaced (text : Array Char) (start : Nat) (m : Regex.Found) :
    Option CaseChange → Option CaseChange → List Part → List Char
  | _, _, [] => []
  | _, _, .changing change :: rest => replaced text start m change none rest
  | all, _, .changingNext change :: rest => replaced text start m all (some change) rest
  | all, next, .text c :: rest =>
    changedCase (next.or all) c :: replaced text start m all none rest
  | all, next, .group n :: rest =>
    let found :=
      if n = 0 then some (start, m.place) else m.groups.lookup n
    match (found.map fun f => (text.extract f.1 f.2).toList).getD [] with
    | [] => replaced text start m all next rest
    | c :: cs =>
      changedCase (next.or all) c :: cs.map (changedCase all) ++
        replaced text start m all none rest

/-- The text from a place on with matches replaced, and whether there was one. An empty match does
not count where the last one ended. -/
def substituteFrom (s : Substitution) (r : Regex) (subject : Regex.Subject) :
    Nat → Nat → Nat → Option Nat → List Char × Bool
  | 0, _, place, _ => ((subject.text.extract place subject.text.size).toList, false)
  | limit + 1, count, place, lastEnd =>
    let rest := (subject.text.extract place subject.text.size).toList
    match Regex.search subject r place with
    | none => (rest, false)
    | some (start, m) =>
      let before := (subject.text.extract place start).toList
      let step := (subject.text.extract m.place (m.place + 1)).toList
      if m.place = start ∧ lastEnd = some start then
        if start ≥ subject.text.size then (rest, false)
        else
          let (others, found) := substituteFrom s r subject limit count (start + 1) none
          (before ++ step ++ others, found)
      else
        let counts := s.number.getD 1 ≤ count + 1
        let here :=
          if counts then replaced subject.text start m none none s.replacement
          else (subject.text.extract start m.place).toList
        if counts ∧ !s.isGlobal then
          (before ++ here ++ (subject.text.extract m.place subject.text.size).toList, true)
        else if m.place = start then
          if start ≥ subject.text.size then (before ++ here, counts)
          else
            let (others, found) :=
              substituteFrom s r subject limit (count + 1) (start + 1) none
            (before ++ here ++ step ++ others, found || counts)
        else
          let (others, found) :=
            substituteFrom s r subject limit (count + 1) m.place (some m.place)
          (before ++ here ++ others, found || counts)

def substitute (setting : Setting) (s : Substitution) (e : Edit) : Edit :=
  let (w, e) := used e s.pattern
  let (text, found) := substituteFrom s w.regex (subject e w) (e.space.length + 2) 0 0 none
  if !found ∨ e.fault.isSome then e
  else
    let e := { e with space := text, substituted := true }
    let e := if s.prints then e.withLine setting text else e
    match s.target with
    | some path => e.writing setting path text
    | none => e

def seen (c : Char) : List Char :=
  let n := c.toNat
  let digit := fun (k : Nat) => Char.ofNat ('0'.toNat + k % 8)
  match n with
  | 7 => ['\\', 'a']
  | 8 => ['\\', 'b']
  | 9 => ['\\', 't']
  | 10 => ['\\', 'n']
  | 11 => ['\\', 'v']
  | 12 => ['\\', 'f']
  | 13 => ['\\', 'r']
  | 92 => ['\\', '\\']
  | _ => if 32 ≤ n ∧ n < 127 then [c] else ['\\', digit (n / 64), digit (n / 8), digit n]

/-- A text with all its signs, broken where a line would get too wide; for a width of zero it is
never broken. -/
def allSeen (width : Nat) : Nat → List Char → List Char
  | _, [] => ['$', '\n']
  | column, c :: rest =>
    let text := seen c
    if width ≠ 0 ∧ width ≤ column + text.length then
      '\\' :: '\n' :: text ++ allSeen width text.length rest
    else text ++ allSeen width (column + text.length) rest

def takeLine (e : Edit) : Option Edit :=
  match e.left with
  | [] => none
  | l :: rest =>
    some { e with
      space := l.text, isClosed := l.isClosed, file := l.file, left := rest, line := e.line + 1 }

def flush (s : Setting) (e : Edit) : Edit :=
  { e.queued.foldl (fun (e : Edit) text => e.withText s text) e with queued := [] }

def endLine (s : Setting) (e : Edit) : Edit :=
  flush s (if s.quiet then e else e.withLine s e.space)

/-- What an instruction leads to: another one, or the end of the work on the line. -/
inductive Step where
  | go (place : Nat)
  | ends (how : Ending)

def labelPlace (program : Array Instruction) (name : String) : Nat :=
  if name.isEmpty then program.size
  else
    (program.findIdx? fun i =>
      match i.verb with
      | .label n => n == name
      | _ => false).getD program.size

def firstLine (sign : Char) (text : List Char) : List Char := text.takeWhile (· ≠ sign)

/-- Takes a line of a file that is read line by line, to be shown behind the line in progress. -/
def queueLine (s : Setting) (path : String) (e : Edit) : Edit :=
  match e.sources.lookup path with
  | some (line :: rest) =>
    { e with
      queued := e.queued ++ [line ++ [s.sign]]
      sources := e.sources.map fun x => if x.1 = path then (path, rest) else x }
  | _ => e

def act (s : Setting) (place : Nat) (sel : Selection) (e : Edit) (v : Verb) : Edit × Step :=
  let goOn := fun (e : Edit) => (e, Step.go (place + 1))
  match v with
  | .skip target => (e, .go target)
  | .substitute x => goOn (substitute s x e)
  | .mapChars pairs => goOn { e with space := e.space.map fun c => (pairs.lookup c).getD c }
  | .delete => (e, .ends .deletes)
  | .deleteFirst =>
    if e.space.contains s.sign then
      ({ e with space := (e.space.dropWhile (· ≠ s.sign)).drop 1 }, .ends .again)
    else (e, .ends .deletes)
  | .print => goOn (e.withLine s e.space)
  | .printFirst =>
    let isClosed := e.isClosed || e.space.contains s.sign
    goOn { e with shown := e.shown.addLine s.sign (firstLine s.sign e.space) isClosed }
  | .display width => goOn (e.withText s (allSeen (width.getD s.width) 0 e.space))
  | .number => goOn (e.withText s (toString e.line ++ "\n").toList)
  | .fileName => goOn (e.withText s (e.file ++ "\n").toList)
  | .quit status prints => (e, .ends (.quits status prints))
  | .append text => goOn { e with queued := e.queued ++ [text] }
  | .insert text => goOn (e.withText s text)
  | .change text =>
    let inRange := (e.ranges.lookup place).isSome && !sel.negated
    (if inRange then e else e.withText s text, .ends .deletes)
  | .next =>
    if e.isLast then (endLine s e, .ends .deletes) else goOn ((takeLine (endLine s e)).getD e)
  | .joinNext =>
    match takeLine (flush s e) with
    | none => (endLine s e, .ends .deletes)
    | some next => goOn { next with space := e.space ++ s.sign :: next.space }
  | .hold => goOn { e with held := e.space, heldIsClosed := e.isClosed }
  | .holdMore =>
    goOn { e with held := e.held ++ s.sign :: e.space, heldIsClosed := e.isClosed }
  | .bring => goOn { e with space := e.held, isClosed := e.heldIsClosed }
  | .bringMore =>
    goOn { e with space := e.space ++ s.sign :: e.held, isClosed := e.heldIsClosed }
  | .exchange =>
    goOn { e with
      space := e.held, isClosed := e.heldIsClosed, held := e.space, heldIsClosed := e.isClosed }
  | .clear => goOn { e with space := [] }
  | .readFile path =>
    goOn { e with queued := e.queued ++ (s.additions.lookup path).toList }
  | .readLine path => goOn (queueLine s path e)
  | .writeLine path => goOn (e.writing s path e.space)
  | .writeFirst path =>
    let isClosed := e.isClosed || e.space.contains s.sign
    let after := { e with isClosed }.writing s path (firstLine s.sign e.space)
    goOn { after with isClosed := e.isClosed }
  | .branch name => (e, .go (labelPlace s.program name))
  | .branchIf wanted name =>
    let jumps := e.substituted == wanted
    ({ e with substituted := false },
      .go (if jumps then labelPlace s.program name else place + 1))
  | .label _ => goOn e

/-- Carries out the program on a line from a place on. -/
def runFrom (s : Setting) : Nat → Nat → Edit → Edit × Ending
  | 0, _, e => (e, .shows)
  | limit + 1, place, e =>
    match s.program[place]? with
    | none => (e, .shows)
    | some i =>
      let (selected, e) := selects place i.selection e
      let (e, step) :=
        if selected && e.fault.isNone then act s place i.selection e i.verb
        else (e, .go (place + 1))
      match e.fault, step with
      | some f, _ => (e, .fails f)
      | none, .go next => runFrom s limit next e
      | none, .ends how => (e, how)

/-- How many instructions are carried out on one line at most. -/
def stepLimit : Nat := 100000000

/-- How the work on an input ended. -/
inductive Outcome where
  | done
  | quit (status : Nat)
  | failed (f : Fault)

def runLines (s : Setting) : Nat → Bool → Edit → Edit × Outcome
  | 0, _, e => (e, .done)
  | limit + 1, goesOn, e =>
    match if goesOn then some e else takeLine e with
    | none => (e, .done)
    | some e =>
      let (e, ending) := runFrom s stepLimit 0 { e with substituted := false }
      match ending with
      | .shows => runLines s limit false (endLine s e)
      | .deletes => runLines s limit false (flush s e)
      | .again => runLines s limit true (flush s e)
      | .quits status prints => (if prints then endLine s e else e, .quit status)
      | .fails f => (e, .failed f)

def linesOf (sign : Char) (file : String) (text : List Char) : List Line :=
  let all := recordsOf sign text
  let isOpen := text.getLast?.any (· ≠ sign)
  all.zipIdx.map fun l =>
    { text := l.1, isClosed := !(isOpen && l.2 + 1 == all.length), file }

/-- Edits lines, with the spaces, ranges and numbers as an edit before left them. -/
def run (s : Setting) (e : Edit) (l : List Line) : Edit × Outcome :=
  let size := l.foldl (fun n x => n + x.text.length + 2) 2
  runLines s size false { e with left := l }

/-- An edit for the next of several separate inputs. -/
def Edit.renewed (e : Edit) : Edit := 
  { e with line := 0, held := [], heldIsClosed := true, ranges := [], queued := [] }

end WasmBundle.Shell.Editing
