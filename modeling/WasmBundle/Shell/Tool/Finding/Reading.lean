import WasmBundle.Shell.DateReading
import WasmBundle.Shell.Tool.Finding.Expression
import WasmBundle.Shell.Tool.Size

/-!
# Reading expressions about files

Arguments as expressions: every part begins with a dash and takes the words behind it that it needs,
and parts are joined by `!`, `-a`, `-o`, commas and parentheses. A part that follows another without
a word between them must hold too.
-/

namespace WasmBundle.Shell.Finding

open Running Tool

inductive Follow where
  | none
  | operands
  | all
  deriving DecidableEq, Repr

/-- What holds for the whole search. -/
structure Settings where
  follow : Follow := .none
  least : Nat := 0
  most : Option Nat := Option.none
  /-- Whether what a directory holds comes before it. -/
  insideOut : Bool := false

/-- A word of an expression, with what it is called in complaints. -/
inductive Token where
  | part (e : Expression)
  | negation (text : String)
  | conjunction (text : String)
  | alternative (text : String)
  | comma
  | opening
  | closing

structure Rest where
  words : List String
  settings : Settings := {}
  /-- The part that was read last. -/
  last : String := ""
  /-- How many commands for several files there are. -/
  commands : Nat := 0
  /-- How expressions for whole paths are written. -/
  grammar : String := "emacs"
  warnings : List String := []

abbrev Reading := StateT Rest (ExceptT (List String) Running)

def refuse {α : Type} (lines : List String) : Reading α := throw lines

def ask {α : Type} (work : Running α) : Reading α := StateT.lift (ExceptT.lift work)

def marked (text : String) : String :=
  String.ofList [graveAccent] ++ text ++ String.ofList [apostrophe]

def value (part : String) : Reading String := do
  match (← get).words with
  | w :: rest =>
    modify fun s => { s with words := rest }
    return w
  | [] => refuse ["missing argument to " ++ marked part]

def amount? (text : List Char) : Option Amount :=
  let (bound, digits) := match text with
    | '+' :: rest => (Bound.above, rest)
    | '-' :: rest => (.below, rest)
    | _ => (.exactly, text)
  if digits.isEmpty ∨ !digits.all Char.isDigit then none
  else some { bound, n := Numeral.ofDigits 10 digits }

def amount (part : String) : Reading Amount := do
  let text ← value part
  match amount? text.toList with
  | some a => return a
  | none => refuse ["invalid argument " ++ marked text ++ " to " ++ marked part]

def depth (part : String) : Reading Nat := do
  let text ← value part
  if !text.isEmpty ∧ text.toList.all Char.isDigit then return Numeral.ofDigits 10 text.toList
  else refuse ["Expected a positive decimal integer argument to " ++ part ++ ", but got " ++
    quotedText text]

def kindLetters : List Char := ['b', 'c', 'd', 'p', 'f', 'l', 's', 'D']

/-- The letters of kinds, between commas. -/
def kinds (part : String) : List Char → List Char → Except String (List Char)
  | known, [] =>
    if known.isEmpty then
      .error ("Arguments to " ++ part ++ " should contain at least one letter")
    else
      .error ("Last file type in list argument to " ++ part ++
        " is missing, i.e., list is ending on: " ++ quoted ",")
  | known, c :: rest =>
    if !kindLetters.contains c then
      .error ("Unknown argument to " ++ part ++ ": " ++ String.ofList [c])
    else if known.contains c then
      .error ("Duplicate file type " ++ quoted (String.ofList [c]) ++
        " in the argument list to " ++ part ++ ".")
    else
      match rest with
      | [] => .ok (c :: known)
      | ',' :: others => kinds part (c :: known) others
      | _ => .error ("Must separate multiple arguments to " ++ part ++ " using: " ++ quoted ",")

def sizeUnits : List (Char × Nat) :=
  [('b', 512), ('c', 1), ('w', 2), ('k', 1024), ('M', 1048576), ('G', 1073741824)]

def size (part : String) : Reading Test := do
  let text ← value part
  let cs := text.toList
  match cs.getLast? with
  | none => refuse ["invalid null argument to " ++ part]
  | some c =>
    let (digits, unit) ←
      if c.isDigit then pure (cs, 512)
      else
        match sizeUnits.lookup c with
        | some n => pure (cs.dropLast, n)
        | none => refuse ["invalid " ++ part ++ " type " ++ marked (String.ofList [c])]
    match amount? digits with
    | some a => return .size a unit
    | none => refuse ["Invalid argument " ++ marked text ++ " to " ++ part]

def permissions (part : String) : Reading Test := do
  let text ← value part
  let (share, mode) := match text.toList with
    | '-' :: rest => (Share.all, rest)
    | '/' :: rest => (.any, rest)
    | cs => (.exactly, cs)
  match if mode.isEmpty then none else Mode.after? {} (String.ofList mode) 0 with
  | some n =>
    if text.toList.head? = some '+' then refuse ["invalid mode " ++ quotedText text]
    else return .permissions share n
  | none => refuse ["invalid mode " ++ quotedText text]

/-- An expression in which signs are operators without a backslash, and parentheses with one. -/
def withPlainSigns : List Char → List Char
  | '\\' :: c :: rest =>
    if ['(', ')', '|'].contains c then c :: withPlainSigns rest
    else '\\' :: c :: withPlainSigns rest
  | c :: rest =>
    if ['(', ')', '|', '\x7b', '\x7d'].contains c then '\\' :: c :: withPlainSigns rest
    else c :: withPlainSigns rest
  | [] => []

/-- The names of notations, with whether each is an extended one. -/
def notations : List (String × Bool) :=
  [("findutils-default", true), ("ed", false), ("emacs", true), ("gnu-awk", true),
    ("grep", false), ("posix-awk", true), ("awk", true), ("posix-basic", false),
    ("posix-egrep", true), ("egrep", true), ("posix-extended", true),
    ("posix-minimal-basic", false), ("sed", false)]

def pathExpression (part : String) (ignoresCase : Bool) : Reading Test := do
  let text ← value part
  let name := (← get).grammar
  let isPlain := name == "emacs" || name == "findutils-default"
  let extended := (notations.lookup name).getD false
  let cs := if isPlain then withPlainSigns text.toList else text.toList
  match Regex.ofText? (.searching extended) cs with
  | .ok r => return .describedBy r ignoresCase
  | .error e =>
    refuse ["failed to compile regular expression " ++ quotedText text ++ ": " ++ e.message]

def pattern (part : String) (ignoresCase : Bool) : Reading Pattern := do
  let text ← value part
  return Pattern.ofText (String.ofList (folded ignoresCase text.toList))

/-- What is known of a file that an argument names. -/
def factOf (part : String) : Reading Fact := do
  let path ← value part
  match ← ask (factAt false path) with
  | .ok f => return f
  | .error e => refuse [quotedPath path ++ ": " ++ e.reason]

/-- Names of users and groups to whom nothing belongs. -/
def otherOwners : List String :=
  ["daemon", "bin", "sys", "sync", "games", "man", "lp", "mail", "news", "uucp", "proxy",
    "www-data", "backup", "list", "irc", "nobody", "nogroup", "ubuntu"]

def owner (part kind : String) : Reading Test := do
  let text ← value part
  if text = ownerName ∨ text = "0" then return .always
  else if otherOwners.contains text ∨ (!text.isEmpty ∧ text.toList.all Char.isDigit) then
    return .never
  else refuse [quotedText text ++ " is not the name of " ++ kind]

def factLetters : List Char := "pfhHPdsbkmMnilyYugUG".toList

/-- A format as its parts; what is wrong with it is warned of. -/
def piecesUpTo : Nat → List Char → Except String (List Piece × List String)
  | 0, _ => .ok ([], [])
  | limit + 1, cs => do
    let behind := fun (p : Piece) (rest : List Char) => do
      let (others, warnings) ← piecesUpTo limit rest
      return (p :: others, warnings)
    match cs with
    | [] => return ([], [])
    | ['\\'] =>
      return ([.text ['\\']],
        ["warning: escape " ++ marked "\\" ++ " followed by nothing at all"])
    | '\\' :: c :: rest =>
      if c = 'c' then return ([.stop], [])
      else if Format.isOctal c then
        let digits := ((c :: rest).take 3).takeWhile Format.isOctal
        behind (.text [Char.ofNat (Numeral.ofDigits 8 digits % 256)])
          ((c :: rest).drop digits.length)
      else
        match if c = 'e' then none else Format.escape? c with
        | some n => behind (.text [Char.ofNat n]) rest
        | none =>
          if c = '\\' then behind (.text ['\\']) rest
          else
            let (others, warnings) ← piecesUpTo limit rest
            return (.text ['\\', c] :: others,
              ("warning: unrecognized escape " ++ marked (String.ofList ['\\', c])) :: warnings)
    | '%' :: rest =>
      let flags := rest.takeWhile ['-', '0', '#', '+', ' '].contains
      let left := rest.drop flags.length
      let width := left.takeWhile Char.isDigit
      let left := left.drop width.length
      let most := match left with
        | '.' :: more => some (more.takeWhile Char.isDigit)
        | _ => none
      let left := left.drop ((most.map fun d => d.length + 1).getD 0)
      match left with
      | [] => throw "error: % at end of format string"
      | '%' :: others => behind (.text ['%']) others
      | c :: others =>
        if factLetters.contains c then
          behind (.fact c flags (Numeral.ofDigits 10 width) (most.map (Numeral.ofDigits 10)))
            others
        else
          let text := '%' :: rest.take (rest.length - others.length)
          let (pieces, warnings) ← piecesUpTo limit others
          return (.text text :: pieces,
            ("warning: unrecognized format directive " ++ marked (String.ofList ['%', c])) ::
              warnings)
    | c :: rest => behind (.text [c]) rest

def format (sink : Sink) (part : String) : Reading Action := do
  let text ← value part
  match piecesUpTo (text.length + 1) text.toList with
  | .error e => refuse [e]
  | .ok (pieces, warnings) =>
    modify fun s => { s with warnings := s.warnings ++ warnings }
    return .format sink pieces

/-- The words of a command up to the one that ends it, and whether that is a plus behind the sign
for files. -/
def commandWords (mayGather : Bool) :
    List String → List String → Option (List String × Bool × List String)
  | _, [] => none
  | before, w :: rest =>
    if w = ";" then some (before.reverse, false, rest)
    else if w = "+" ∧ mayGather ∧ before.head? = some "\x7b\x7d" then
      some (before.tail.reverse, true, rest)
    else commandWords mayGather (w :: before) rest

def command (part : String) (inPlace asks : Bool) : Reading Action := do
  let missing : Reading Action := refuse ["missing argument to " ++ marked part]
  match commandWords (!asks) [] (← get).words with
  | none => missing
  | some (words, gathers, rest) =>
    if words.isEmpty then missing
    else
      let n := (← get).commands
      modify fun s => { s with words := rest, commands := n + 1 }
      if gathers then
        if words.any fun w => (w.splitOn "\x7b\x7d").length > 1 then
          refuse ["Only one instance of \x7b\x7d is supported with " ++ part ++ " ... +"]
        else return .gather n words inPlace
      else return .run words inPlace asks

/-- A part that says something about the whole search, and holds for every file. -/
def setting (change : Settings → Settings) : Reading Expression := do
  modify fun s => { s with settings := change s.settings }
  return .test .always

/-- What a part means, with the words it takes. -/
def part (w : String) : Reading Expression := do
  let test := fun (t : Reading Test) => Expression.test <$> t
  let act := fun (a : Reading Action) => Expression.action <$> a
  match w with
  | "-name" => test (do return .name (← pattern w false) false)
  | "-iname" => test (do return .name (← pattern w true) true)
  | "-path" => test (do return .path (← pattern w false) false)
  | "-wholename" => test (do return .path (← pattern w false) false)
  | "-ipath" => test (do return .path (← pattern w true) true)
  | "-iwholename" => test (do return .path (← pattern w true) true)
  | "-lname" => test (do return .linkText (← pattern w false) false)
  | "-ilname" => test (do return .linkText (← pattern w true) true)
  | "-regex" => test (pathExpression w false)
  | "-iregex" => test (pathExpression w true)
  | "-regextype" =>
    let name ← value w
    if (notations.lookup name).isNone then
      refuse ["Unknown regular expression type " ++ quotedText name ++ "; valid types are " ++
        ", ".intercalate (notations.map fun n => quoted n.1) ++ "."]
    modify fun s => { s with grammar := name }
    return .test .always
  | "-type" =>
    match kinds w [] (← value w).toList with
    | .ok l => return .test (.kind l false)
    | .error e => refuse [e]
  | "-xtype" =>
    match kinds w [] (← value w).toList with
    | .ok l => return .test (.kind l true)
    | .error e => refuse [e]
  | "-size" => test (size w)
  | "-empty" => return .test .empty
  | "-newer" => test (do return .changedAfter (← factOf w).time)
  | "-anewer" => test (do return .changedAfter (← factOf w).time)
  | "-cnewer" => test (do return .changedAfter (← factOf w).time)
  | "-newermm" => test (do return .changedAfter (← factOf w).time)
  | "-newermt" =>
    let text ← value w
    let now := (← ask disk).clock
    match Calendar.parse? now text with
    | some time => return .test (.changedAfter time)
    | none =>
      refuse ["I cannot figure out how to interpret " ++ quotedText text ++
        " as a date or time"]
  | "-mtime" => test (do return .age (← amount w) 86400)
  | "-ctime" => test (do return .age (← amount w) 86400)
  | "-atime" => test (do return .age (← amount w) 86400)
  | "-mmin" => test (do return .age (← amount w) 60)
  | "-cmin" => test (do return .age (← amount w) 60)
  | "-amin" => test (do return .age (← amount w) 60)
  | "-perm" => test (permissions w)
  | "-readable" => return .test .readable
  | "-writable" => return .test .readable
  | "-executable" => return .test .executable
  | "-links" => test (do return .names (← amount w))
  | "-inum" => test (do return .number (← amount w))
  | "-samefile" => test (do
      let f ← factOf w
      return .sameAs f.location f.entry)
  | "-user" => test (owner w "a known user")
  | "-group" => test (owner w "an existing group")
  | "-uid" => test (do return if (← amount w).admits 0 then .always else .never)
  | "-gid" => test (do return if (← amount w).admits 0 then .always else .never)
  | "-nouser" => return .test .never
  | "-nogroup" => return .test .never
  | "-true" => return .test .always
  | "-false" => return .test .never
  | "-maxdepth" =>
    let n ← depth w
    setting fun s => { s with most := some n }
  | "-mindepth" =>
    let n ← depth w
    setting fun s => { s with least := n }
  | "-depth" => setting fun s => { s with insideOut := true }
  | "-d" => setting fun s => { s with insideOut := true }
  | "-follow" => setting fun s => { s with follow := .all }
  | "-xdev" => setting id
  | "-mount" => setting id
  | "-noleaf" => setting id
  | "-daystart" => setting id
  | "-warn" => setting id
  | "-nowarn" => setting id
  | "-ignore_readdir_race" => setting id
  | "-noignore_readdir_race" => setting id
  | "-print" => return .action (.print .output '\n')
  | "-print0" => return .action (.print .output (Char.ofNat 0))
  | "-fprint" => act (do return .print (.file (← value w)) '\n')
  | "-fprint0" => act (do return .print (.file (← value w)) (Char.ofNat 0))
  | "-printf" => act (format .output w)
  | "-fprintf" => act (do
      let file ← value w
      format (.file file) w)
  | "-exec" => act (command w false false)
  | "-execdir" => act (command w true false)
  | "-ok" => act (command w false true)
  | "-okdir" => act (command w true true)
  | "-delete" =>
    modify fun s => { s with settings := { s.settings with insideOut := true } }
    return .action .delete
  | "-prune" => return .action .prune
  | "-quit" => return .action .quit
  | _ =>
    let isNewer := "-newer".toList.isPrefixOf w.toList && w.length == 8
    refuse [(if isNewer then "invalid" else "unknown") ++ " predicate " ++ marked w]

/-- Whether a word begins an expression where operands come first. -/
def beginsExpression (isFirst : Bool) (w : String) : Bool :=
  match w.toList with
  | ['-'] => false
  | '-' :: _ => true
  | ['('] => true
  | ['!'] => true
  | [')'] => !isFirst
  | [','] => !isFirst
  | _ => false

def token (w : String) : Reading Token := do
  match w with
  | "(" => return .opening
  | ")" => return .closing
  | "," => return .comma
  | "!" => return .negation w
  | "-not" => return .negation w
  | "-a" => return .conjunction w
  | "-and" => return .conjunction w
  | "-o" => return .alternative w
  | "-or" => return .alternative w
  | _ =>
    if !beginsExpression false w then
      let isThere ← ask (do return (← found w).toOption.isSome)
      let last := (← get).last
      refuse (["paths must precede expression: " ++ marked w] ++
        (if isThere ∧ !last.isEmpty then
          ["possible unquoted pattern after predicate " ++ marked last ++ "?"] else []))
    else
      modify fun s => { s with last := w }
      return .part (← part w)

def tokens : Nat → Reading (List Token)
  | 0 => return []
  | limit + 1 => do
    match (← get).words with
    | [] => return []
    | w :: rest =>
      modify fun s => { s with words := rest }
      let t ← token w
      return t :: (← tokens limit)

def noneBefore (text : String) : String :=
  "invalid expression; you have used a binary operator " ++ quoted text ++
    " with nothing before it."

def noneBehind (text : String) : String := "expected an expression after " ++ quoted text

/-- Reads one part, behind a word if there is one. `inner` reads what stands in parentheses. -/
def single (inner : List Token → Except String (Expression × List Token)) :
    Option String → List Token → Except String (Expression × List Token)
  | before, [] => .error (noneBehind (before.getD "("))
  | _, .part e :: rest => .ok (e, rest)
  | _, .negation text :: rest => do
    let (e, left) ← single inner (some text) rest
    return (.not e, left)
  | _, .opening :: .closing :: _ =>
    .error "invalid expression; empty parentheses are not allowed."
  | _, .opening :: rest => do
    let (e, left) ← inner rest
    match left with
    | .closing :: others => return (e, others)
    | _ =>
      throw ("invalid expression; I was expecting to find a " ++ quoted ")" ++
        " somewhere but did not see one.")
  | _, .closing :: _ => .error ("you have too many " ++ quoted ")")
  | _, .conjunction text :: _ => .error (noneBefore text)
  | _, .alternative text :: _ => .error (noneBefore text)
  | _, .comma :: _ => .error (noneBefore ",")

/-- How strongly operators bind. -/
inductive Level where
  | comma
  | alternative
  | conjunction
  deriving DecidableEq, Repr

/-- Parts joined by operators of a level, behind the first of them. -/
def joined (inner : List Token → Except String (Expression × List Token)) :
    Nat → Level → Expression → List Token → Except String (Expression × List Token)
  | 0, _, e, l => .ok (e, l)
  | limit + 1, level, e, l =>
    let next := fun (before : Option String) (rest : List Token) (combine : Expression → Expression)
        (tighter : Option Level) => do
      let (first, left) ← single inner before rest
      let (second, left) ← match tighter with
        | none => pure (first, left)
        | some .conjunction => joined inner limit .conjunction first left
        | some _ => do
          let (a, left) ← joined inner limit .conjunction first left
          joined inner limit .alternative a left
      joined inner limit level (combine second) left
    match level, l with
    | .conjunction, .conjunction text :: rest => next (some text) rest (.and e) none
    | .conjunction, .part p :: rest => next none (.part p :: rest) (.and e) none
    | .conjunction, .negation t :: rest => next none (.negation t :: rest) (.and e) none
    | .conjunction, .opening :: rest => next none (.opening :: rest) (.and e) none
    | .alternative, .alternative text :: rest =>
      next (some text) rest (.or e) (some .conjunction)
    | .comma, .comma :: rest => next (some ",") rest (.both e) (some .alternative)
    | _, _ => .ok (e, l)

/-- An expression, with expressions in parentheses to a depth. -/
def expression : Nat → List Token → Except String (Expression × List Token)
  | 0, _ => .error "expression too deep"
  | depth + 1, l => do
    let inner := expression depth
    let (first, left) ← single inner none l
    let (a, left) ← joined inner l.length .conjunction first left
    let (b, left) ← joined inner l.length .alternative a left
    joined inner l.length .comma b left

/-- The expression that tokens make up, which is printing if there are none. -/
def whole (l : List Token) : Except String Expression := do
  let print := Expression.action (.print .output '\n')
  if l.isEmpty then return print
  else
    let (e, left) ← expression (l.length + 1) l
    match left with
    | [] => return if e.hasOutput then e else .and e print
    | .closing :: _ => throw ("you have too many " ++ quoted ")")
    | _ => throw "invalid expression"

end WasmBundle.Shell.Finding
