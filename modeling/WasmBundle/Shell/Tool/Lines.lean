import WasmBundle.Shell.Format
import WasmBundle.Shell.Tool.Operand
import WasmBundle.Shell.Tool.Size

/-!
# Lines

What tools on text have in common: the lines of an input, each closed by a line end or by another
sign, and the inputs that operands name.
-/

namespace WasmBundle.Shell.Tool

open Running

/-- The sign that closes lines, which an option changes to the null character. -/
def closingSign (i : Invocation) : Char := if i.has 'z' then Char.ofNat 0 else '\n'

def closedRecords (sign : Char) (cs : List Char) : List (List Char) :=
  let parts := splitAtSeparator sign cs
  let closed := parts.dropLast.map (· ++ [sign])
  match parts.getLast? with
  | some (c :: rest) => closed ++ [c :: rest]
  | _ => closed

def closedBy (sign : Char) (l : List (List Char)) : List Char := l.flatMap (· ++ [sign])

/-- The lines of a text, each with the line end that closes it. -/
def closedLines (cs : List Char) : List (List Char) := closedRecords '\n' cs

def withoutEnd (line : List Char) : List Char :=
  if line.getLast? = some '\n' then line.dropLast else line

def chars (b : Bytes) : List Char := (ofOctets b).toList

def printChars (cs : List Char) : Running Unit := print (String.ofList cs)

/-- Prints work on each of the inputs in turn; a message for one that cannot be read. -/
def forInputs (name : String) (operands : List String) (work : String → Bytes → Running Unit) :
    Running Nat :=
  forEach (fun o => do
    match ← contentOf o with
    | .ok b =>
      work o b
      return 0
    | .error e => complain name (shownPath o ++ ": " ++ e.reason)) (inputs operands)

def isSpaceChar (c : Char) : Bool := c = ' ' ∨ (9 ≤ c.toNat ∧ c.toNat ≤ 13)

/-- The number of the file that an operand is, and the place from which on it is read. -/
def sourceFile? (operand : String) : Running (Option (Nat × Nat)) := do
  if operand = "-" then
    match streamOf? (← get) 0 with
    | some (_, .file n position _) => return some (n, position)
    | _ => return none
  else
    match ← found operand with
    | .ok (.file n _) => return some (n, 0)
    | _ => return none

def printsTo (operand : String) : Running Bool := do
  match ← sourceFile? operand, streamOf? (← get) 1 with
  | some (source, _), some (_, .file target ..) => return source = target
  | _, _ => return false

/-- Whether reading an input would never end: what is printed goes to it, and to a place that is
still to be read. -/
def feedsItself (operand : String) : Running Bool := do
  match ← sourceFile? operand, streamOf? (← get) 1 with
  | some (source, start), some (_, .file target position appends) =>
    let content ← held target
    return source = target && start < (if appends then content.length else position)
  | _, _ => return false

end WasmBundle.Shell.Tool
