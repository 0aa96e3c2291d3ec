import WasmBundle.Shell.Tool.Operand
import WasmBundle.Shell.Tool.Size

/-!
# Styles of lists

How lists of files are laid out, what is left out of them, and in which order they are, as options
say it one after another.
-/

namespace WasmBundle.Shell.Listing

open Tool

inductive Form where
  | single
  | long
  /-- In columns that are read downwards. -/
  | columns
  /-- In columns that are read across. -/
  | across
  | commas
  deriving DecidableEq, Repr

inductive Quoting where
  | literal
  /-- As the shell reads names, where it needs that or always, with escapes or without. -/
  | shell (always escapes : Bool)
  /-- Between quotation marks, always or where there is something to be escaped. -/
  | marked (always : Bool)
  | escaped
  | apostrophes
  deriving DecidableEq, Repr

inductive Order where
  | none
  | name
  | ending
  | size
  | time
  | version
  | width
  deriving DecidableEq, Repr

/-- What is shown behind names for what they name. -/
inductive Marks where
  | none
  | directories
  | kinds
  | all
  deriving DecidableEq, Repr

/-- Which names that start with a dot are shown. -/
inductive Dotted where
  | none
  | most
  | all
  deriving DecidableEq, Repr

inductive Scale where
  /-- With one digit or more and a letter for a power of a number. -/
  | readable (base : Nat)
  | units (size : Nat) (suffix : String)
  deriving DecidableEq, Repr

inductive TimeStyle where
  /-- With the time of day if it is not long ago, else with the year. -/
  | usual
  | short
  | full
  | format (recent old : String)
  deriving DecidableEq, Repr

structure Style where
  form : Form := .single
  /-- How wide lines may be; zero if there is no bound. -/
  width : Nat := 80
  tab : Nat := 8
  quoting : Quoting := .literal
  /-- Whether a question mark stands for what cannot be printed. -/
  hidesControls : Bool := false
  order : Order := .name
  isReversed : Bool := false
  directoriesFirst : Bool := false
  marks : Marks := .none
  dotted : Dotted := .none
  /-- Patterns of names that are left out. -/
  leftOut : List String := []
  /-- Patterns of names that are left out unless dotted ones are shown. -/
  hidden : List String := []
  withoutBackups : Bool := false
  sizes : Scale := .units 1 ""
  blocks : Scale := .units 1024 ""
  time : TimeStyle := .usual
  showsNumber : Bool := false
  showsBlocks : Bool := false
  showsContext : Bool := false
  withoutOwner : Bool := false
  withoutGroup : Bool := false
  showsAuthor : Bool := false
  isNumeric : Bool := false
  /-- Whether what directories hold is left out. -/
  onlyNames : Bool := false
  isRecursive : Bool := false
  /-- Whether links are followed, and those that operands name. -/
  follows : Bool := false
  followsOperands : Bool := false
  closing : String := "\n"

/-- Why options are refused: what is told, the status, and whether a hint follows. -/
structure Refusal where
  text : String
  status : Nat := 2
  hints : Bool := false

namespace Style

def orders : List (List String × Order) :=
  [(["none"], .none), (["time"], .time), (["size"], .size), (["extension"], .ending),
    (["version"], .version), (["width"], .width)]

def forms : List (List String × Form) :=
  [(["verbose", "long"], .long), (["commas"], .commas), (["horizontal", "across"], .across),
    (["vertical"], .columns), (["single-column"], .single)]

def quotings : List (List String × Quoting) :=
  [(["literal"], .literal), (["shell"], .shell false false), (["shell-always"], .shell true false),
    (["shell-escape"], .shell false true), (["shell-escape-always"], .shell true true),
    (["c"], .marked true), (["c-maybe"], .marked false), (["escape"], .escaped),
    (["locale"], .apostrophes), (["clocale"], .marked true)]

def markings : List (List String × Marks) :=
  [(["none"], .none), (["slash"], .directories), (["file-type"], .kinds), (["classify"], .all)]

/-- When something is done that depends on who looks at it. -/
def occasions : List (List String × Bool) :=
  [(["always", "yes", "force"], true), (["never", "no", "none"], false),
    (["auto", "tty", "if-tty"], false)]

def times : List (List String × Unit) :=
  [(["atime", "access", "use"], ()), (["ctime", "status"], ()), (["mtime", "modification"], ()),
    (["birth", "creation"], ())]

/-- The meaning of a value of an option. -/
def chosen {α : Type} (option : String) (known : List (List String × α)) (value : String) :
    Except Refusal α :=
  (choice? option known value).mapError fun text => { text, status := 1, hints := true }

/-- The style of times that a value says. -/
def timeStyle (value : String) : Except Refusal TimeStyle :=
  match value.toList with
  | '+' :: format =>
    match splitAtSeparator '\n' format with
    | old :: recent :: _ => .ok (.format (String.ofList recent) (String.ofList old))
    | _ => .ok (.format (String.ofList format) (String.ofList format))
  | cs =>
    if "posix-".toList.isPrefixOf cs then .ok .usual
    else
      let known : List (List String × TimeStyle) :=
        [(["full-iso"], .full), (["long-iso"], .format "%Y-%m-%d %H:%M" "%Y-%m-%d %H:%M"),
          (["iso"], .format "%m-%d %H:%M" "%Y-%m-%d "), (["locale"], .usual)]
      (choice? "time style" known value).mapError fun _ =>
        { text := "invalid argument " ++ quotedText value ++ " for " ++ quoted "time style" ++
            "\nValid arguments are:\n  - [posix-]full-iso\n  - [posix-]long-iso\n" ++
            "  - [posix-]iso\n  - [posix-]locale\n" ++
            "  - +FORMAT (e.g., +%H:%M) for a " ++ quoted "date" ++ "-style format"
          hints := true }

/-- The scale that a size of blocks says. -/
def scale (value : String) : Except Refusal Scale :=
  let cs := value.toList
  let cs := if cs.head? = some apostrophe then cs.drop 1 else cs
  let ds := cs.takeWhile Char.isDigit
  let suffix := cs.drop ds.length
  let refuse := fun (start : String) =>
    Except.error { text := start ++ " --block-size argument " ++ quotedText value : Refusal }
  if value = "human-readable" then .ok (.readable 1024)
  else if value = "si" then .ok (.readable 1000)
  else
    match Size.unit? false suffix with
    | some unit =>
      let n := if ds.isEmpty then unit else Numeral.ofDigits 10 ds * unit
      let shown :=
        match ds, suffix with
        | [], ['K', 'B'] => "kB"
        | [], _ => String.ofList suffix
        | _, _ => ""
      if n = 0 ∨ cs.isEmpty then refuse "invalid" else .ok (.units n shown)
    | none =>
      if (Size.unit? false (suffix.take 1)).isSome then refuse "invalid suffix in"
      else refuse "invalid"

def options : OptionTable where
  flags := ['1', 'a', 'A', 'd', 'D', 'F', 'p', 'r', 'l', 'C', 'q', 'U', 'h', 't', 'S', 'R', 'L',
    'i', 's', 'n', 'g', 'o', 'G', 'N', 'Q', 'b', 'm', 'x', 'X', 'c', 'u', 'k', 'B', 'v', 'f', 'H',
    'Z', 'α', 'δ', 'ζ', 'ς', 'ο', 'γ', 'λ']
  valued := ['I', 'T', 'w', 'σ', 'φ', 'κ', 'ι', 'τ', 'β', 'η', 'θ']
  optional := ['χ', 'ε', 'υ']
  long := [("all", 'a'), ("almost-all", 'A'), ("author", 'α'), ("block-size", 'β'),
    ("classify", 'ε'), ("color", 'χ'), ("context", 'Z'), ("dereference", 'L'),
    ("dereference-command-line", 'H'), ("dired", 'D'), ("directory", 'd'), ("escape", 'b'),
    ("file-type", 'δ'), ("format", 'φ'), ("full-time", 'ο'), ("group-directories-first", 'γ'),
    ("hide", 'η'), ("hide-control-chars", 'q'), ("human-readable", 'h'), ("hyperlink", 'υ'),
    ("ignore", 'I'), ("ignore-backups", 'B'), ("indicator-style", 'ι'), ("inode", 'i'),
    ("kibibytes", 'k'), ("literal", 'N'), ("no-group", 'G'), ("numeric-uid-gid", 'n'),
    ("quote-name", 'Q'), ("quoting-style", 'κ'), ("recursive", 'R'), ("reverse", 'r'),
    ("show-control-chars", 'λ'), ("si", 'ς'), ("size", 's'), ("sort", 'σ'), ("tabsize", 'T'),
    ("time", 'θ'), ("time-style", 'τ'), ("width", 'w'), ("zero", 'ζ')]

def longForm (s : Style) : Style := { s with form := .long }

/-- The meaning of an option without a value. -/
def withFlag (s : Style) (c : Char) : Style :=
  match c with
  | '1' => if s.form = .long then s else { s with form := .single }
  | 'l' => s.longForm
  | 'C' => { s with form := .columns }
  | 'x' => { s with form := .across }
  | 'm' => { s with form := .commas }
  | 'a' => { s with dotted := .all }
  | 'A' => { s with dotted := .most }
  | 'f' => { s with dotted := .all, order := .none }
  | 'd' => { s with onlyNames := true }
  | 'F' => { s with marks := .all }
  | 'p' => { s with marks := .directories }
  | 'δ' => { s with marks := .kinds }
  | 'r' => { s with isReversed := true }
  | 'R' => { s with isRecursive := true }
  | 'U' => { s with order := .none }
  | 't' => { s with order := .time }
  | 'S' => { s with order := .size }
  | 'X' => { s with order := .ending }
  | 'v' => { s with order := .version }
  | 'γ' => { s with directoriesFirst := true }
  | 'L' => { s with follows := true }
  | 'H' => { s with followsOperands := true }
  | 'i' => { s with showsNumber := true }
  | 's' => { s with showsBlocks := true }
  | 'Z' => { s with showsContext := true }
  | 'n' => { s with form := .long, isNumeric := true }
  | 'g' => { s with form := .long, withoutOwner := true }
  | 'o' => { s with form := .long, withoutGroup := true }
  | 'G' => { s with withoutGroup := true }
  | 'α' => { s with showsAuthor := true }
  | 'ο' => { s with form := .long, time := .full }
  | 'h' => { s with sizes := .readable 1024, blocks := .readable 1024 }
  | 'ς' => { s with sizes := .readable 1000, blocks := .readable 1000 }
  | 'k' => { s with blocks := .units 1024 "" }
  | 'q' => { s with hidesControls := true }
  | 'λ' => { s with hidesControls := false }
  | 'N' => { s with quoting := .literal }
  | 'Q' => { s with quoting := .marked true }
  | 'b' => { s with quoting := .escaped }
  | 'B' => { s with withoutBackups := true }
  | 'ζ' =>
    { s with
      closing := String.ofList [Char.ofNat 0], quoting := .literal, hidesControls := false
      form := if s.form = .long then .long else .single }
  | _ => s

/-- The meaning of an option with a value. -/
def withValue (s : Style) (c : Char) (value : String) : Except Refusal Style := do
  match c with
  | 'I' => return { s with leftOut := value :: s.leftOut }
  | 'η' => return { s with hidden := value :: s.hidden }
  | 'σ' => return { s with order := ← chosen "--sort" orders value }
  | 'φ' => return { s with form := ← chosen "--format" forms value }
  | 'κ' => return { s with quoting := ← chosen "--quoting-style" quotings value }
  | 'ι' => return { s with marks := ← chosen "--indicator-style" markings value }
  | 'τ' => return { s with time := ← timeStyle value }
  | 'θ' =>
    let _ ← chosen "--time" times value
    return s
  | 'β' =>
    let scale ← scale value
    return { s with sizes := scale, blocks := scale }
  | 'χ' =>
    if !value.isEmpty then
      let _ ← chosen "--color" occasions value
    return s
  | 'υ' =>
    if !value.isEmpty then
      let _ ← chosen "--hyperlink" occasions value
    return s
  | 'ε' =>
    let isMeant ← if value.isEmpty then pure true else chosen "--classify" occasions value
    return if isMeant then { s with marks := .all } else s
  | 'w' =>
    match Numeral.count? value with
    | some n => return { s with width := n }
    | none => throw { text := "invalid line width: " ++ quotedText value }
  | 'T' =>
    match Numeral.count? value with
    | some n => return { s with tab := n }
    | none => throw { text := "invalid tab size: " ++ quotedText value }
  | _ => return s.withFlag c

/-- The style that options say, one after another. -/
def ofOptions (start : Style) (l : List (Char × String)) : Except Refusal Style :=
  l.foldlM (fun s o => s.withValue o.1 o.2) start

end Style

end WasmBundle.Shell.Listing
