import WasmBundle.Shell.Regex
import WasmBundle.Shell.Tool.Listing.Fact

/-!
# Expressions about files

What files are looked for: conditions on what is known of a file, what is done with a file, and how
both are joined. An expression holds for a file or not; what stands behind a part that settles that
is left alone.
-/

namespace WasmBundle.Shell.Finding

open Tool

inductive Bound where
  | exactly
  | above
  | below
  deriving DecidableEq, Repr

structure Amount where
  bound : Bound
  n : Nat
  deriving DecidableEq, Repr

def Amount.admits (a : Amount) (n : Int) : Bool :=
  match a.bound with
  | .exactly => n == a.n
  | .above => a.n < n
  | .below => n < a.n

/-- Which of some permissions a file must have. -/
inductive Share where
  | exactly
  | all
  | any
  deriving DecidableEq, Repr

inductive Test where
  | always
  | never
  /-- The name, or the whole path, fits a pattern. -/
  | name (p : Pattern) (ignoresCase : Bool)
  | path (p : Pattern) (ignoresCase : Bool)
  /-- The whole path is what an expression describes. -/
  | describedBy (r : Regex) (ignoresCase : Bool)
  /-- The kind is one of those with some letters, of the file or of what a link leads to. -/
  | kind (letters : List Char) (follows : Bool)
  /-- The size in units, rounded up. -/
  | size (a : Amount) (unit : Nat)
  | empty
  | changedAfter (time : Int)
  /-- How long ago it was changed, in units of seconds. -/
  | age (a : Amount) (unit : Nat)
  | permissions (share : Share) (mode : Nat)
  | readable
  | executable
  | names (a : Amount)
  | number (a : Amount)
  | sameAs (location : Location) (entry : Entry)
  | linkText (p : Pattern) (ignoresCase : Bool)

/-- A part of a format for what is known of a file. -/
inductive Piece where
  | text (cs : List Char)
  /-- What a letter stands for, at one side of some room, cut to a length. -/
  | fact (letter : Char) (flags : List Char) (width : Nat) (most : Option Nat)
  | stop
  deriving DecidableEq, Repr

/-- Where something is printed. -/
inductive Sink where
  | output
  | file (name : String)
  deriving DecidableEq, Repr

/-- What is done with a file. -/
inductive Action where
  | print (sink : Sink) (ending : Char)
  | format (sink : Sink) (pieces : List Piece)
  /-- Runs a command for the file, in its directory, or if that is agreed to. -/
  | run (words : List String) (inPlace asks : Bool)
  /-- Runs a command for as many files as there are, under a number. -/
  | gather (number : Nat) (words : List String) (inPlace : Bool)
  | delete
  | prune
  | quit

inductive Expression where
  | test (t : Test)
  | action (a : Action)
  | not (a : Expression)
  | and (a b : Expression)
  | or (a b : Expression)
  /-- Both, one after the other; the second one counts. -/
  | both (a b : Expression)

/-- Whether an action stands for printing the file where nothing else does. -/
def Action.isOutput : Action → Bool
  | .prune => false
  | .quit => false
  | _ => true

def Expression.hasOutput : Expression → Bool
  | .test _ => false
  | .action a => a.isOutput
  | .not a => a.hasOutput
  | .and a b => a.hasOutput || b.hasOutput
  | .or a b => a.hasOutput || b.hasOutput
  | .both a b => a.hasOutput || b.hasOutput

def Expression.gathered : Expression → List (Nat × List String × Bool)
  | .test _ => []
  | .action (.gather n words inPlace) => [(n, words, inPlace)]
  | .action _ => []
  | .not a => a.gathered
  | .and a b => a.gathered ++ b.gathered
  | .or a b => a.gathered ++ b.gathered
  | .both a b => a.gathered ++ b.gathered

/-- A file that was come upon. -/
structure Subject where
  path : String
  /-- The operand that it was found below. -/
  start : String
  depth : Nat
  fact : Fact
  /-- What is known of what it leads to, if it is a link. -/
  behind : Option Fact
  /-- The names in it, if it is a directory. -/
  within : List String

def kindOf (f : Fact) : Char :=
  match f.kindLetter with
  | '-' => 'f'
  | c => c

namespace Subject

def numberOf (s : Subject) : Nat :=
  match s.fact.entry with
  | .file n => n + 1
  | _ => 1

def linkText (s : Subject) : String :=
  match s.fact.entry with
  | .link target => ofOctets target.bytes
  | _ => ""

def pathBelow (s : Subject) : String :=
  String.ofList ((s.path.toList.drop s.start.length).dropWhile (· = '/'))

/-- The directory that a path names, as far as the text goes. -/
def directory (s : Subject) : String :=
  let cs := s.path.toList.reverse
  let trimmed := if s.path = "/" then cs else cs.dropWhile (· = '/')
  let dir := (trimmed.dropWhile (· ≠ '/')).drop 1
  if !trimmed.contains '/' then "." else String.ofList dir.reverse

def factText (s : Subject) (letter : Char) (flags : List Char) : Option String :=
  let f := s.fact
  match letter with
  | 'p' => some s.path
  | 'f' =>
    some (if s.path.toList.all (· = '/') then s.path
      else String.ofList ((splitAtSeparator '/' s.path.toList).getLast?.getD []) |> fun name =>
        if name.isEmpty then baseName s.path ++ "/" else name)
  | 'h' => some s.directory
  | 'H' => some s.start
  | 'P' => some s.pathBelow
  | 'd' => some (toString s.depth)
  | 's' => some (toString f.size)
  | 'b' => some (toString (f.blocks * 2))
  | 'k' => some (toString f.blocks)
  | 'm' => some (if flags.contains '#' then Mode.octal 4 f.mode else Mode.octal 1 f.mode)
  | 'M' => some f.modeText
  | 'n' => some (toString f.names)
  | 'i' => some (toString s.numberOf)
  | 'l' => some s.linkText
  | 'y' => some (String.ofList [kindOf f])
  | 'Y' =>
    some (if f.kindLetter = 'l' then ((s.behind.map fun b => String.ofList [kindOf b]).getD "N")
      else String.ofList [kindOf f])
  | 'u' => some ownerName
  | 'g' => some ownerName
  | 'U' => some "0"
  | 'G' => some "0"
  | _ => none

/-- A file in a format, up to where the format stops. -/
def shown (s : Subject) : List Piece → String
  | [] => ""
  | .stop :: _ => ""
  | .text cs :: rest => String.ofList cs ++ s.shown rest
  | .fact letter flags width most :: rest =>
    let text := (s.factText letter flags).getD ""
    let cut := (most.map fun n => String.ofList (text.toList.take n)).getD text
    let isNumber := ['d', 's', 'b', 'k', 'n', 'i'].contains letter
    let fill := if flags.contains '0' ∧ isNumber ∧ !flags.contains '-' then '0' else ' '
    Format.padded (flags.contains '-') fill width cut ++ s.shown rest

end Subject

def folded (ignoresCase : Bool) (cs : List Char) : List Char :=
  if ignoresCase then cs.map Char.toLower else cs

/-- Whether an expression describes a whole text. -/
def describes (r : Regex) (ignoresCase : Bool) (text : List Char) : Bool :=
  let s : Regex.Subject := { text := text.toArray, ignoresCase }
  (Regex.matchesFrom s r { place := 0 }).any fun m => m.place == s.text.size

/-- Whether a condition holds for a file at a time. -/
def Test.holds (t : Test) (now : Int) (s : Subject) : Bool :=
  let f := s.fact
  match t with
  | .always => true
  | .never => false
  | .name p ignoresCase => p.fits (folded ignoresCase (baseName s.path).toList)
  | .path p ignoresCase => p.fits (folded ignoresCase s.path.toList)
  | .describedBy r ignoresCase => describes r ignoresCase s.path.toList
  | .kind letters follows =>
    letters.contains (kindOf (if follows then s.behind.getD f else f))
  | .size a unit => a.admits (((f.size + unit - 1) / unit : Nat) : Int)
  | .empty =>
    match f.kindLetter with
    | 'd' => s.within.isEmpty
    | '-' => f.size == 0
    | _ => false
  | .changedAfter time => decide (time < f.time)
  | .age a unit =>
    let seconds := Int.fdiv (now - f.time) 1000000000
    a.admits (Int.fdiv seconds unit)
  | .permissions share mode =>
    match share with
    | .exactly => f.mode == mode
    | .all => f.mode &&& mode == mode
    | .any => mode == 0 || f.mode &&& mode != 0
  | .readable => f.kindLetter != 'l' || s.behind.isSome
  | .executable =>
    let g := if f.kindLetter = 'l' then s.behind else some f
    g.any fun x => x.kindLetter == 'd' || x.mode &&& 0o111 != 0
  | .names a => a.admits f.names
  | .number a => a.admits s.numberOf
  | .sameAs location entry =>
    f.location == location ||
      (match f.entry, entry with
      | .file n, .file m => n == m
      | _, _ => false)
  | .linkText p ignoresCase =>
    f.kindLetter == 'l' && p.fits (folded ignoresCase s.linkText.toList)

end WasmBundle.Shell.Finding
