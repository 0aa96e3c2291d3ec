import WasmBundle.Shell.Tool.Search.Inputs
import WasmBundle.Shell.Tool.Search.Page

/-!
# Searching

The tool that selects the lines of its input in which an expression matches. The status tells
whether there is one.
-/

namespace WasmBundle.Shell.Search

open Running Tool

def options : OptionTable where
  flags := ['q', 's', 'c', 'v', 'i', 'n', 'l', 'L', 'o', 'w', 'x', 'E', 'F', 'G', 'P', 'h', 'H',
    'a', 'y', 'r', 'R', 'U', 'b', 'z', 'Z', 'T', 'I', 'u', 'ν', 'ζ', 'φ']
  valued := ['e', 'f', 'm', 'A', 'B', 'C', 'd', 'D', 'X', 'β', 'ι', 'ε', 'ξ', 'δ', 'γ', 'λ']
  optional := ['κ']
  long := [("basic-regexp", 'G'), ("extended-regexp", 'E'), ("fixed-regexp", 'F'),
    ("fixed-strings", 'F'), ("perl-regexp", 'P'), ("after-context", 'A'),
    ("before-context", 'B'), ("binary-files", 'β'), ("byte-offset", 'b'), ("context", 'C'),
    ("color", 'κ'), ("colour", 'κ'), ("count", 'c'), ("devices", 'D'), ("directories", 'd'),
    ("exclude", 'ε'), ("exclude-from", 'ξ'), ("exclude-dir", 'δ'), ("file", 'f'),
    ("files-with-matches", 'l'), ("files-without-match", 'L'), ("group-separator", 'γ'),
    ("include", 'ι'), ("ignore-case", 'i'), ("no-ignore-case", 'ζ'), ("initial-tab", 'T'),
    ("label", 'λ'), ("line-buffered", 'φ'), ("line-number", 'n'), ("line-regexp", 'x'),
    ("max-count", 'm'), ("no-filename", 'h'), ("no-group-separator", 'ν'), ("no-messages", 's'),
    ("null", 'Z'), ("null-data", 'z'), ("only-matching", 'o'), ("quiet", 'q'),
    ("recursive", 'r'), ("dereference-recursive", 'R'), ("regexp", 'e'), ("invert-match", 'v'),
    ("silent", 'q'), ("text", 'a'), ("binary", 'U'), ("unix-byte-offsets", 'u'),
    ("with-filename", 'H'), ("word-regexp", 'w')]
  counted := some 'C'

def usage (name : String) : String :=
  "Usage: " ++ name ++ " [OPTION]... PATTERNS [FILE]...\nTry " ++
    quoted (name ++ " --help") ++ " for more information.\n"

def lastOf (i : Invocation) (letters : List Char) : Option Char :=
  (i.options.reverse.find? fun o => letters.contains o.1).map (·.1)

/-- A count of lines; a sign may stand before it. -/
def lineCount? (text : String) : Option Int := Numeral.whole? false text

def treatments : List (List String × Treatment) :=
  [(["read"], .reads), (["recurse"], .enters), (["skip"], .skips)]

/-- What is said of an option that has no meaning, with the status. -/
def optionFault? (name : String) (o : Char × String) : Option (String × Nat) :=
  let fault := fun (text : String) => some (text ++ "\n", 2)
  match o.1 with
  | 'm' => if (lineCount? o.2).isNone then fault "invalid max count" else none
  | 'd' =>
    match choice? "--directories" treatments o.2 with
    | .ok _ => none
    | .error text => some (text ++ "\n" ++ usage name, 1)
  | 'D' => if ["read", "skip"].contains o.2 then none else fault "unknown devices method"
  | 'X' =>
    if ["grep", "egrep", "fgrep", "awk", "gawk", "posixawk", "perl"].contains o.2 then none
    else fault ("invalid matcher " ++ o.2)
  | 'β' =>
    if ["binary", "text", "without-match"].contains o.2 then none
    else fault "unknown binary-files type"
  | c =>
    if ['A', 'B', 'C'].contains c ∧ !(lineCount? o.2).any (0 ≤ ·) then
      fault (o.2 ++ ": invalid context length argument")
    else none

def kinds (i : Invocation) : List String :=
  (i.options.filterMap fun o =>
    match o.1 with
    | 'G' => some "grep"
    | 'E' => some "egrep"
    | 'F' => some "fgrep"
    | 'P' => some "perl"
    | 'X' => some o.2
    | _ => none).eraseDups

inductive Purpose where
  | lines
  | count
  /-- Its name, if something is selected, or if nothing is. -/
  | name (selected : Bool)
  | nothing
  deriving DecidableEq, Repr

def Purpose.of (i : Invocation) : Purpose :=
  if i.has 'q' then .nothing
  else
    match lastOf i ['l', 'L'] with
    | some c => .name (c = 'l')
    | none => if i.has 'c' then .count else .lines

/-- What is done with an input that has null characters. -/
inductive Oddness where
  | tells
  | shows
  | skips
  deriving DecidableEq, Repr

def Oddness.of (i : Invocation) : Oddness :=
  let meaning := fun (o : Char × String) =>
    match o.1, o.2 with
    | 'a', _ => some Oddness.shows
    | 'I', _ => some .skips
    | 'β', "text" => some .shows
    | 'β', "without-match" => some .skips
    | 'β', _ => some .tells
    | _, _ => none
  (i.options.reverse.findSome? meaning).getD .tells

/-- A search, with everything that its options say. -/
structure Plan where
  choice : Choice
  layout : Layout
  purpose : Purpose
  oddness : Oddness
  /-- Whether inputs are shown under their names, if that is settled. -/
  titled : Option Bool
  isAligned : Bool
  isSilent : Bool
  /-- What the standard input is called. -/
  label : String

def Plan.of (i : Invocation) (patterns : List Regex) (operands : List String) : Plan :=
  let count := fun (c : Char) => ((i.value? c).bind lineCount?).map Int.toNat
  let most := (i.value? 'm').bind fun t => (lineCount? t).bind fun n =>
    if n < 0 then none else some n.toNat
  { choice :=
      { query :=
          { patterns
            ignoresCase := lastOf i ['i', 'y', 'ζ'] |>.any (· ≠ 'ζ')
            wholeLine := i.has 'x'
            wholeWord := i.has 'w' }
        inverted := i.has 'v'
        most
        before := ((count 'B').or (count 'C')).getD 0
        after := ((count 'A').or (count 'C')).getD 0
        groups := ['A', 'B', 'C'].any i.has }
    layout :=
      { numbers := i.has 'n'
        offsets := i.has 'b'
        onlyMatches := i.has 'o'
        nullNames := i.has 'Z'
        coloured := (i.value? 'κ').any ["always", "yes", "force"].contains
        sign := closingSign i
        separator :=
          match i.options.reverse.find? fun o => o.1 == 'γ' || o.1 == 'ν' with
          | some ('γ', text) => some text
          | some _ => none
          | none => some "--" }
    purpose := .of i
    oddness := .of i
    titled :=
      match lastOf i ['h', 'H'] with
      | some c => some (c = 'H')
      | none => if operands.length > 1 then some true else none
    isAligned := i.has 'T'
    isSilent := i.has 's'
    label := (i.value? 'λ').getD "(standard input)" }

structure Progress where
  matched : Bool := false
  failed : Bool := false
  /-- Whether lines were shown. -/
  hasShown : Bool := false

def Plan.called (p : Plan) (operand : String) : String :=
  if operand = "-" then p.label else operand

def digitCount (n : Nat) : Nat := (toString n).length

/-- How wide numbers are shown that stand before the lines of an input. -/
def numberWidth (p : Plan) (operand : String) (text : List Char) : Running Nat := do
  let size := if (← sourceFile? operand).isSome then text.length else Size.greatest.toNat
  return digitCount (if p.layout.numbers then size + 1 else size)

/-- Leaves to others what follows the last selected line of the standard input, if no more lines
were wanted. -/
def leaveRest (p : Plan) (operand : String) (chosen : List Record) (text : List Char) :
    Running Unit := do
  match chosen.getLast? with
  | some last =>
    if operand = "-" ∧ p.choice.most = some chosen.length then
      match streamOf? (← get) 0 with
      | some (_, .file ..) =>
        let rest := text.drop (last.offset + last.text.length + 1)
        giveBack 0 (octets (String.ofList rest))
      | _ => return ()
  | none => return ()

/-- Searches a text; whether something is selected, and whether lines were shown. -/
def searchText (p : Plan) (name operand : String) (isWithin : Bool) (text : List Char)
    (hasShown : Bool) : Running (Bool × Bool) := do
  let sign := p.layout.sign
  let isOdd := text.contains (Char.ofNat 0) && sign == '\n' && p.oddness != .shows
  let parted := if isOdd then text.map fun c => if c = Char.ofNat 0 then sign else c else text
  let all :=
    if isOdd ∧ p.oddness = .skips then [] else numbered 0 0 (recordsOf sign parted)
  let chosen := p.choice.selected all
  let isMatch := !chosen.isEmpty
  let title := if p.titled.getD isWithin then some (p.called operand) else none
  let layout := { p.layout with title }
  leaveRest p operand chosen text
  match p.purpose with
  | .nothing => return (isMatch, hasShown)
  | .name wanted =>
    if isMatch == wanted then
      print (layout.painted "35" (p.called operand) ++ if layout.nullNames then "\x00" else "\n")
    return (isMatch, hasShown)
  | .count =>
    print ((title.map (layout.named true)).getD "" ++ toString chosen.length ++ "\n")
    return (isMatch, hasShown)
  | .lines =>
    if isOdd then
      if isMatch ∧ !(streamOf? (← get) 1).any (·.2 == .null) then
        printError (name ++ ": " ++ p.called operand ++ ": binary file matches\n")
      return (isMatch, hasShown)
    else
      let aligned ← if p.isAligned then some <$> numberWidth p operand text else pure none
      let layout := { layout with aligned }
      let shown := p.choice.shown (chosen.map (·.index)) hasShown {} all
      print (String.join (shown.map (layout.shown p.choice)))
      return (isMatch, hasShown || isMatch)

def searchInput (p : Plan) (name : String) (s : Source) (x : Progress) : Running Progress := do
  let say := fun (text : String) => do
    if !p.isSilent then printError (name ++ ": " ++ text ++ "\n")
  match s with
  | .warning text =>
    say text
    return x
  | .fault text =>
    say text
    return { x with failed := true }
  | .input operand isWithin =>
    let showsLines := p.purpose == .lines && p.choice.most.all (1 < ·)
    let isOutput ← printsTo operand
    if showsLines ∧ isOutput then
      say (p.called operand ++ ": input file is also the output")
      return { x with failed := true }
    else
      let content ← contentOf operand
      let text? := match content with
        | .ok b => some (chars b)
        | .error .isDirectory => some []
        | .error _ => none
      let failed := content matches .error _
      if let .error e := content then say (p.called operand ++ ": " ++ e.reason)
      match text? with
      | none => return { x with failed := true }
      | some text =>
        let (matched, hasShown) ← searchText p name operand isWithin text x.hasShown
        return { matched := x.matched || matched, failed := x.failed || failed, hasShown }

/-- Searches inputs one after another, up to the first match if that is all that matters. -/
def searchAll (p : Plan) (name : String) : List Source → Progress → Running Progress
  | [], x => return x
  | s :: rest, x => do
    let x ← searchInput p name s x
    if p.purpose = .nothing ∧ x.matched then return x else searchAll p name rest x

/-- The expressions that options and operands give, and the other operands; none if there are no
expressions. A file that cannot be read is a fault. -/
def patternTexts (i : Invocation) :
    Running (Except (String × IoError) (Option (List (List Char) × List String))) := do
  let mut all := []
  for (c, value) in i.options do
    if c = 'e' then all := all ++ splitAtSeparator '\n' value.toList
    else if c = 'f' then
      match ← contentOf value with
      | .ok b => all := all ++ lines (chars b)
      | .error e => return .error (value, e)
  if i.has 'e' ∨ i.has 'f' then return .ok (some (all.eraseDups, i.operands))
  else
    match i.operands with
    | [] => return .ok none
    | pattern :: rest => return .ok (some ((splitAtSeparator '\n' pattern.toList).eraseDups, rest))

/-- Whether nothing can be selected, whatever the inputs hold. -/
def isVain (i : Invocation) (texts : List (List Char)) : Bool :=
  let isEverything := texts == [[]] && !i.has 'x' && !i.has 'w'
  let isHopeless := if i.has 'v' then isEverything else texts.isEmpty
  lastOf i ['l', 'L'] != some 'L' &&
    (isHopeless || (i.value? 'm').bind lineCount? == some 0)

def rulesOf (i : Invocation) : Running (Except (String × IoError) (List NameRule)) := do
  let mut all := []
  for (c, value) in i.options do
    if c = 'ι' then all := all ++ [{ keeps := true, pattern := value : NameRule }]
    else if c = 'ε' then all := all ++ [{ keeps := false, pattern := value }]
    else if c = 'ξ' then
      match ← contentOf value with
      | .ok b =>
        let patterns := (lines (chars b)).filter fun l => !l.isEmpty
        all := all ++ patterns.map fun l => { keeps := false, pattern := String.ofList l }
      | .error e => return .error (value, e)
  return .ok all

def scopeOf (i : Invocation) (files : List NameRule) : Scope :=
  let meaning := fun (o : Char × String) =>
    match o.1 with
    | 'r' => some Treatment.enters
    | 'R' => some .enters
    | 'd' => (choice? "--directories" treatments o.2).toOption
    | _ => none
  { treatment := (i.options.reverse.findSome? meaning).getD .reads
    followsLinks := lastOf i ['r', 'R'] == some 'R'
    files
    directories := i.options.filterMap fun o =>
      if o.1 = 'δ' then some { keeps := false, pattern := withoutMarks o.2 } else none }

/-- The expression of a text, and the signs in it that repeat nothing. -/
def readPattern (i : Invocation) (text : List Char) : Except Regex.Fault (Regex × List Char) :=
  match (kinds i).head?.getD "grep" with
  | "fgrep" => .ok (Regex.literally text, [])
  | "grep" => Regex.readText? (.searching false) text
  | _ => Regex.readText? (.searching true) text

/-- Reads all expressions, with warnings about signs that repeat nothing. -/
def readPatterns (name : String) (i : Invocation) :
    List (List Char) → Running (Except Regex.Fault (List Regex))
  | [] => return .ok []
  | text :: rest => do
    match readPattern i text with
    | .error f => return .error f
    | .ok (r, signs) =>
      for c in signs do
        let sign := if c = '\x7b' then "\x7b...\x7d" else String.ofList [c]
        printError (name ++ ": warning: " ++ sign ++ " at start of expression\n")
      return (← readPatterns name i rest).map (r :: ·)

def search : Tool := fun _ name arguments => do
  let refuse := fun (text : String) => do
    printError (name ++ ": " ++ text ++ "\n")
    return 2
  let cannotRead := fun (f : String × IoError) => refuse (f.1 ++ ": " ++ f.2.reason)
  match Invocation.read options arguments with
  | .error e =>
    printError (name ++ ": " ++ e.message ++ "\n" ++ usage name)
    return 2
  | .ok i =>
    if let some (text, status) := i.options.findSome? (optionFault? name) then
      printError (name ++ ": " ++ text)
      return status
    else if (kinds i).length > 1 then refuse "conflicting matchers specified"
    else
      if i.has 'u' then
        printError (name ++ ": warning: --unix-byte-offsets (-u) is obsolete\n")
      match ← patternTexts i, ← rulesOf i with
      | .error f, _ => cannotRead f
      | _, .error f => cannotRead f
      | .ok none, _ =>
        printError (usage name)
        return 2
      | .ok (some (texts, operands)), .ok rules =>
        if isVain i texts then return 1
        else
          match ← readPatterns name i texts with
          | .error f => refuse f.message
          | .ok patterns =>
            let p := Plan.of i patterns operands
            let sources ← inputsOfAll (scopeOf i rules) operands
            let x ← searchAll p name sources {}
            let isSettled := p.purpose == .nothing && x.matched
            return if x.failed && !isSettled then 2 else if x.matched then 0 else 1

def searchAs (option : String) : Tool := fun r _ arguments =>
  search r "grep" (option :: arguments)

end WasmBundle.Shell.Search
