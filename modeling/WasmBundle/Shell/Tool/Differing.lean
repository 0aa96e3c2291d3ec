import WasmBundle.Shell.Regex
import WasmBundle.Shell.Tool.Differing.Page
import WasmBundle.Shell.Tool.Listing.Fact

/-!
# Telling how files differ

The tool that compares two files line by line, or the files of two directories, and shows the
changes that make one of the other.
-/

namespace WasmBundle.Shell.Differing

open Running Tool

inductive Style where
  | plain
  | unified
  | context
  | editor
  | forward
  | numbered
  | beside
  deriving DecidableEq, Repr

structure Order where
  style : Option Style := none
  /-- How many lines around changes are shown, as an option with a value says. -/
  around : Option Nat := none
  /-- The same as digits alone say. -/
  digits : Option Nat := none
  brief : Bool := false
  tellsSame : Bool := false
  recursive : Bool := false
  takesMissing : Bool := false
  ignoresCase : Bool := false
  ignoresSpace : Bool := false
  ignoresSpaceChange : Bool := false
  ignoresSpaceAtEnd : Bool := false
  ignoresTabs : Bool := false
  ignoresBlankLines : Bool := false
  stripsReturns : Bool := false
  allText : Bool := false
  tabbed : Bool := false
  expands : Bool := false
  leftOnly : Bool := false
  hidesCommon : Bool := false
  width : Nat := 130
  labels : List String := []
  excluded : List String := []
  ignored : List Regex := []
  /-- The options as they were given. -/
  words : List String := []

namespace Order

def styleOf (o : Order) : Style := o.style.getD .plain

def context (o : Order) : Nat := o.digits.getD (o.around.getD 3)

def isBlank (c : Char) : Bool := c = ' ' ∨ (9 ≤ c.toNat ∧ c.toNat ≤ 13)

/-- Runs of blanks as one, and none at the end. -/
def squeezed : List Char → List Char
  | [] => []
  | c :: rest =>
    let others := squeezed rest
    if isBlank c then
      match others with
      | ' ' :: _ => others
      | [] => []
      | _ => ' ' :: others
    else c :: others

def withoutBlanksAtEnd (cs : List Char) : List Char := (cs.reverse.dropWhile isBlank).reverse

def key (o : Order) (line : List Char) : List Char :=
  let cs :=
    if o.ignoresSpace then line.filter fun c => !isBlank c
    else if o.ignoresSpaceChange then squeezed line
    else
      let cs := if o.ignoresSpaceAtEnd then withoutBlanksAtEnd line else line
      if o.ignoresTabs then Sheet.expandFrom 0 cs else cs
  if o.ignoresCase then cs.map Char.toLower else cs

/-- Whether a line does not count where it comes in or goes out. -/
def isIdle (o : Order) (line : List Char) : Bool :=
  let text := withoutEnd line
  (o.ignoresBlankLines && (o.key line).all (· == '\n')) ||
    o.ignored.any fun r => (r.search { text := text.toArray } 0).isSome

/-- The lines of a text; a line end is put behind the last one where the style needs it. -/
def linesOf (o : Order) (b : Bytes) : List (List Char) :=
  let lines := closedLines (chars b)
  let lines := if o.stripsReturns then lines.map stripped else lines
  if o.styleOf = .editor ∨ o.styleOf = .forward then lines.map fun l => withoutEnd l ++ ['\n']
  else lines
where
  stripped (l : List Char) : List Char :=
    match l.reverse with
    | '\n' :: '\r' :: rest => rest.reverse ++ ['\n']
    | _ => l

def sheet (o : Order) (b c : Bytes) : Sheet :=
  let first := o.linesOf b
  let second := o.linesOf c
  let around := if o.styleOf = .unified ∨ o.styleOf = .context then o.context else 0
  let s : Sheet :=
    { first := first.toArray
      second := second.toArray
      changes := changesWithin o.key around first second
      ignores := fun _ => false
      tabbed := o.tabbed
      expands := o.expands }
  let ignores := fun (x : Change) =>
    (o.ignoresBlankLines || !o.ignored.isEmpty) && (s.removed x ++ s.added x).all o.isIdle
  { s with ignores }

end Order

def options : OptionTable where
  flags := ['a', 'b', 'B', 'c', 'd', 'e', 'E', 'f', 'H', 'i', 'l', 'n', 'N', 'p', 'P', 'q', 'r',
    's', 't', 'T', 'u', 'w', 'y', 'Z', 'λ', 'κ', 'ρ', 'ν']
  valued := ['C', 'F', 'I', 'L', 'S', 'U', 'W', 'x', 'X', 'τ']
  optional := ['γ', 'ψ', 'ω']
  counted := some 'δ'
  long := [("normal", 'ν'), ("brief", 'q'), ("report-identical-files", 's'), ("context", 'γ'),
    ("unified", 'ψ'), ("ed", 'e'), ("rcs", 'n'), ("side-by-side", 'y'), ("width", 'W'),
    ("left-column", 'λ'), ("suppress-common-lines", 'κ'), ("show-c-function", 'p'),
    ("label", 'L'), ("expand-tabs", 't'), ("initial-tab", 'T'), ("recursive", 'r'),
    ("new-file", 'N'), ("ignore-case", 'i'), ("ignore-tab-expansion", 'E'),
    ("ignore-trailing-space", 'Z'), ("ignore-space-change", 'b'), ("ignore-all-space", 'w'),
    ("ignore-blank-lines", 'B'), ("ignore-matching-lines", 'I'), ("text", 'a'),
    ("strip-trailing-cr", 'ρ'), ("minimal", 'd'), ("speed-large-files", 'H'), ("exclude", 'x'),
    ("color", 'ω'), ("forward-ed", 'f')]

namespace Order

def styled (o : Order) (s : Style) : Except String Order :=
  match o.style with
  | some t => if t = s then .ok o else .error "conflicting output style options"
  | none => .ok { o with style := some s }

def withContext (o : Order) (s : Style) (text : String) : Except String Order := do
  let o ← o.styled s
  if text.isEmpty then return { o with around := some (max 3 (o.around.getD 0)) }
  else if text.toList.all Char.isDigit then
    return { o with around := some (max (Numeral.ofDigits 10 text.toList) (o.around.getD 0)) }
  else throw ("invalid context length " ++ quoted text)

def withOption (o : Order) (option : Char × String) : Except String Order := do
  let (letter, value) := option
  match letter with
  | 'ν' => o.styled .plain
  | 'u' => o.withContext .unified ""
  | 'U' => o.withContext .unified value
  | 'ψ' => o.withContext .unified value
  | 'c' => o.withContext .context ""
  | 'C' => o.withContext .context value
  | 'γ' => o.withContext .context value
  | 'e' => o.styled .editor
  | 'f' => o.styled .forward
  | 'n' => o.styled .numbered
  | 'y' => o.styled .beside
  | 'δ' => return { o with digits := some (Numeral.ofDigits 10 value.toList) }
  | 'q' => return { o with brief := true }
  | 's' => return { o with tellsSame := true }
  | 'r' => return { o with recursive := true }
  | 'N' => return { o with takesMissing := true }
  | 'i' => return { o with ignoresCase := true }
  | 'w' => return { o with ignoresSpace := true }
  | 'b' => return { o with ignoresSpaceChange := true }
  | 'Z' => return { o with ignoresSpaceAtEnd := true }
  | 'E' => return { o with ignoresTabs := true }
  | 'B' => return { o with ignoresBlankLines := true }
  | 'ρ' => return { o with stripsReturns := true }
  | 'a' => return { o with allText := true }
  | 'T' => return { o with tabbed := true }
  | 't' => return { o with expands := true }
  | 'λ' => return { o with leftOnly := true }
  | 'κ' => return { o with hidesCommon := true }
  | 'W' =>
    let n := Numeral.ofDigits 10 value.toList
    if value.isEmpty ∨ !value.toList.all Char.isDigit ∨ n = 0 then
      throw ("invalid width " ++ quoted value)
    else return { o with width := n }
  | 'L' =>
    return { o with labels := o.labels ++ [value] }
  | 'x' => return { o with excluded := value :: o.excluded }
  | 'I' =>
    match Regex.ofText? (.searching false) value.toList with
    | .ok r => return { o with ignored := r :: o.ignored }
    | .error e => throw (value ++ ": " ++ e.message)
  | _ => return o

end Order

structure Side where
  name : String
  bytes : Bytes := []
  /-- When it was changed, in nanoseconds. -/
  time : Int := 0

def isBinary (b : Bytes) : Bool := b.contains 0

/-- A name as headers show it: in quotes if it has a blank. -/
def headerName (name : String) : String :=
  if name.toList.contains ' ' ∨ name.toList.contains '\t' then "\"" ++ name ++ "\"" else name

/-- The time of a file in the header of changes in context. -/
def longTime (time : Int) : String :=
  let s := Int.fdiv time 1000000000
  let m := Calendar.moment s
  let short := fun (names : List String) (n : Nat) =>
    String.ofList (((names[n]?).getD "").toList.take 3)
  short Calendar.dayNames (Calendar.weekday s) ++ " " ++
    short Calendar.monthNames (m.month - 1) ++ " " ++
    Format.padded false ' ' 2 (toString m.day) ++ " " ++ twoDigits m.hour ++ ":" ++
    twoDigits m.minute ++ ":" ++ twoDigits m.second ++ " " ++ toString m.year

/-- The two lines before changes that are shown with lines around them. -/
def header (o : Order) (a b : Side) : String :=
  let line := fun (sign : String) (s : Side) (label : Option String) =>
    let told := if o.styleOf = .context then longTime s.time else fullTime s.time
    sign ++ " " ++ label.getD (headerName s.name ++ "\t" ++ told) ++ "\n"
  let signs := if o.styleOf = .context then ("***", "---") else ("---", "+++")
  line signs.1 a o.labels[0]? ++ line signs.2 b o.labels[1]?

def body (o : Order) (a b : Side) (s : Sheet) : String :=
  let headed := fun (text : String) => if text.isEmpty then "" else header o a b ++ text
  match o.styleOf with
  | .plain => s.plain
  | .unified => headed (s.unified o.context)
  | .context => headed (s.inContext o.context)
  | .editor => s.editor
  | .forward => s.forward
  | .numbered => s.numbered
  | .beside => s.beside (.ofWidth o.width o.expands o.leftOnly o.hidesCommon)

/-- What comes to light when files are compared. -/
structure Report where
  /-- What is printed, and what is complained of behind it. -/
  text : String := ""
  complaints : List String := []
  /-- 0 for equal files, 1 for different ones, 2 for trouble. -/
  status : Nat := 0

/-- What is said of files that differ or not, if only that is wanted. -/
def verdict (o : Order) (a b : Side) (differs : Bool) : Report :=
  if differs then
    { text := "Files " ++ a.name ++ " and " ++ b.name ++ " differ\n", status := 1 }
  else if o.tellsSame then
    { text := "Files " ++ a.name ++ " and " ++ b.name ++ " are identical\n" }
  else {}

/-- Compares two files; `title` is printed before their changes. -/
def compareFiles (o : Order) (title : String) (a b : Side) : Report :=
  if !o.allText && (isBinary a.bytes || isBinary b.bytes) then
    if a.bytes = b.bytes then verdict o a b false
    else if o.brief then verdict o a b true
    else
      { text := "Binary files " ++ a.name ++ " and " ++ b.name ++ " differ\n", status := 1 }
  else
    let s := o.sheet a.bytes b.bytes
    let differs := !s.counted.isEmpty
    if o.brief then verdict o a b differs
    else
      let isOpen := fun (x : Side) => !x.bytes.isEmpty && x.bytes.getLast? != some 10
      let needsEnds := o.styleOf == .editor || o.styleOf == .forward
      let complaints :=
        if needsEnds then
          ([a, b].filter isOpen).map fun x => x.name ++ ": No newline at end of file\n"
        else []
      let shown := body o a b s
      let same := verdict o a b false
      if differs then
        { text := title ++ shown, complaints, status := if complaints.isEmpty then 1 else 2 }
      else { same with text := same.text ++ (if o.styleOf = .beside then shown else ""), complaints,
                       status := if complaints.isEmpty then 0 else 2 }

def deliver (name : String) (r : Report) : Running Nat := do
  print r.text
  for text in r.complaints do printError (name ++ ": " ++ text ++ "\n")
  return r.status

/-- What is there under a path: a file's side, a directory, or nothing. -/
inductive Presence where
  | file (s : Side) (location : Option Location) (isEmpty : Bool)
  | directory
  | missing (e : IoError)

def presence (path : String) : Running Presence := do
  if path = "-" then
    match ← contentOf path with
    | .ok b => return .file { name := path, bytes := b, time := (← disk).clock } none b.isEmpty
    | .error e => return .missing e
  else
    match ← factAt true path with
    | .error e => return .missing e
    | .ok f =>
      if f.kindLetter = 'd' then return .directory
      else
        match ← contentOf path with
        | .ok b =>
          return .file { name := path, bytes := b, time := f.time } (some f.location) b.isEmpty
        | .error e => return .missing e

/-- The words of an option list as the shell reads them. -/
def optionText (words : List String) : String := String.join (words.map fun w => " " ++ shownPath w)

def kindText (isEmpty : Bool) : String := if isEmpty then "regular empty file" else "regular file"

/-- Compares what two paths lead to. `below` says whether they were found in directories. -/
def comparePaths (name : String) (o : Order) (below : Bool) : Nat → String → String → Running Nat
  | 0, _, _ => return 2
  | limit + 1, a, b => do
    let title := if below then
        "diff" ++ optionText o.words ++ " " ++ headerName a ++ " " ++ headerName b ++ "\n"
      else ""
    let trouble := fun (path : String) (e : IoError) => do
      printError (name ++ ": " ++ shownPath path ++ ": " ++ e.reason ++ "\n")
    let compareDirectories := fun (missing : Bool) => do
      let names := fun (path : String) => do return (← namesWithin path)
      let all := ((← names a) ++ (← names b)).eraseDups.mergeSort fun x y =>
        compareOfLessAndEq x y != .gt
      let left ← names a
      let right ← names b
      let wanted := all.filter fun n =>
        !o.excluded.any fun p => (Pattern.ofText p).fits n.toList
      forEach (fun n => do
        let first := inDirectory a n
        let second := inDirectory b n
        if (left.contains n && right.contains n) || o.takesMissing || missing then
          comparePaths name o true limit first second
        else
          let dir := if left.contains n then a else b
          print ("Only in " ++ dir ++ ": " ++ n ++ "\n")
          return 1) wanted
    match ← presence a, ← presence b with
    | .missing e, .missing f =>
      trouble a e
      trouble b f
      return 2
    | .file s l _, .file t m _ =>
      if l.isSome ∧ l = m then deliver name (verdict o s t false)
      else deliver name (compareFiles o title s t)
    | .missing e, .file t _ _ =>
      if o.takesMissing ∧ e = .noEntry then
        deliver name (compareFiles o title { name := a } t)
      else
        trouble a e
        return 2
    | .file s _ _, .missing e =>
      if o.takesMissing ∧ e = .noEntry then
        deliver name (compareFiles o title s { name := b })
      else
        trouble b e
        return 2
    | .directory, .directory =>
      let isSame := (← locationOf a).toOption == (← locationOf b).toOption
      if isSame then return 0
      else if below ∧ !o.recursive then
        print ("Common subdirectories: " ++ a ++ " and " ++ b ++ "\n")
        return 0
      else compareDirectories false
    | .directory, .missing e =>
      if o.takesMissing ∧ e = .noEntry then
        if below ∧ !o.recursive then
          print ("Common subdirectories: " ++ a ++ " and " ++ b ++ "\n")
          return 0
        else compareDirectories true
      else
        trouble b e
        return 2
    | .missing e, .directory =>
      if o.takesMissing ∧ e = .noEntry then
        if below ∧ !o.recursive then
          print ("Common subdirectories: " ++ a ++ " and " ++ b ++ "\n")
          return 0
        else compareDirectories true
      else
        trouble a e
        return 2
    | .directory, .file t _ isEmpty =>
      if below then
        print ("File " ++ a ++ " is a directory while file " ++ b ++ " is a " ++
          kindText isEmpty ++ "\n")
        return 1
      else if t.name = "-" then
        printError (name ++ ": cannot compare " ++ quoted "-" ++ " to a directory\n")
        return 2
      else comparePaths name o false limit (inDirectory a (baseName b)) b
    | .file s _ isEmpty, .directory =>
      if below then
        print ("File " ++ a ++ " is a " ++ kindText isEmpty ++ " while file " ++ b ++
          " is a directory\n")
        return 1
      else if s.name = "-" then
        printError (name ++ ": cannot compare " ++ quoted "-" ++ " to a directory\n")
        return 2
      else comparePaths name o false limit a (inDirectory b (baseName a))

/-- The arguments that are no operands, in order. -/
def optionWords (arguments operands : List String) : List String :=
  operands.foldl (fun (l : List String) o => l.erase o) (arguments.filter (· ≠ "--"))

def tellDifferences : Tool := fun _ name arguments => do
  let refuse := fun (text : String) => do
    printError (name ++ ": " ++ text ++ "\n" ++ name ++ ": " ++ tryHelp name)
    return 2
  match Invocation.read options arguments with
  | .error e => refuse e.message
  | .ok i =>
    match i.options.foldlM Order.withOption {} with
    | .error text => refuse text
    | .ok o =>
      let o := { o with words := optionWords arguments i.operands }
      if o.labels.length > 2 then
        printError (name ++ ": too many file label options\n")
        return 2
      match i.operands with
      | [] => refuse ("missing operand after " ++ quoted (arguments.getLast?.getD name))
      | [a] => refuse ("missing operand after " ++ quoted (arguments.getLast?.getD a))
      | [a, b] =>
        if a = "-" ∧ b = "-" then return 0 else comparePaths name o false depthLimit a b
      | _ :: _ :: extra :: _ => refuse ("extra operand " ++ quoted extra)

end WasmBundle.Shell.Differing
