import WasmBundle.Shell.Octets

/-!
# Shell commands

The syntax of the shell's language: words made of fragments that are expanded when a command runs,
redirections, and commands built from simple ones.
-/

namespace WasmBundle.Shell

/-- What the value of a parameter is used for. `alsoEmpty` treats an empty value like none. -/
inductive Use where
  | value
  | length
  /-- The operand stands for a missing value. -/
  | fallback (alsoEmpty : Bool)
  /-- The operand becomes the value if it is missing. -/
  | assign (alsoEmpty : Bool)
  /-- A missing value is an error, told by the operand. -/
  | demand (alsoEmpty : Bool)
  /-- The operand stands for a value that is not missing. -/
  | replace (alsoEmpty : Bool)
  /-- What matches the operand is cut off at one end. -/
  | trim (atEnd longest : Bool)
  | malformed
  deriving DecidableEq, Repr

inductive OpenMode where
  | read
  | write
  /-- Writes even where existing files are protected. -/
  | overwrite
  | append
  | both
  deriving DecidableEq, Repr

mutual

/-- A piece of a word. What is quoted is never split. -/
inductive Fragment where
  | literal (text : String) (quoted : Bool)
  | parameter (name : String) (use : Use) (operand : List Fragment) (quoted : Bool)
  | substitution (body : Command) (quoted : Bool)
  | arithmetic (expression : List Fragment) (quoted : Bool)

inductive Redirection where
  | file (descriptor : Nat) (mode : OpenMode) (target : List Fragment)
  | duplicate (descriptor : Nat) (source : List Fragment)
  | document (descriptor : Nat) (body : List Fragment)

/-- A branch of a selection: patterns and what is run when one of them matches. -/
inductive Branch where
  | mk (patterns : List (List Fragment)) (body : Command)

inductive Command where
  | nothing
  | simple (line : Nat) (assignments words : List (List Fragment))
      (redirections : List Redirection)
  | pipeline (stages : List Command)
  | background (body : Command)
  | negation (body : Command)
  | conjunction (first second : Command)
  | disjunction (first second : Command)
  | sequence (first second : Command)
  | redirected (line : Nat) (body : Command) (redirections : List Redirection)
  | subshell (line : Nat) (body : Command) (redirections : List Redirection)
  | conditional (test body otherwise : Command)
  | loop (untilHolds : Bool) (test body : Command)
  | iteration (line : Nat) (name : String) (items : List (List Fragment)) (body : Command)
  | selection (line : Nat) (subject : List Fragment) (branches : List Branch)
  | definition (name : String) (body : Command)

end

abbrev Word := List Fragment

instance : Inhabited Command := ⟨.nothing⟩

def plainText? : Word → Option String
  | [.literal text false] => some text
  | _ => none

def Fragment.isQuoted : Fragment → Bool
  | .literal _ quoted => quoted
  | .parameter _ _ _ quoted => quoted
  | .substitution _ quoted => quoted
  | .arithmetic _ quoted => quoted

/-- The characters of a word that come from its text alone, whether quoted or not. -/
def writtenText (w : Word) : String :=
  String.join (w.map fun
    | .literal text _ => text
    | _ => "")

/-- The variable a word assigns to, with the word for its value. -/
def assignment? (w : Word) : Option (String × Word) :=
  match w with
  | .literal text false :: rest =>
    let name := text.toList.takeWhile isNameChar
    match text.toList.drop name.length with
    | '=' :: value =>
      if isName name then
        let head := if value.isEmpty then [] else [Fragment.literal (String.ofList value) false]
        some (String.ofList name, head ++ rest)
      else none
    | _ => none
  | _ => none

end WasmBundle.Shell
