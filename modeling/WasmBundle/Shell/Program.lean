import WasmBundle.Shell.Process
import WasmBundle.Shell.System

/-!
# Finding programs

A program is an executable file. One that is named without a slash is looked for in the directories
of the variable `PATH`. A file may begin by naming the program that interprets it.
-/

namespace WasmBundle.Shell.Program

open Running

def hasSlash (name : String) : Bool := name.toList.contains '/'

def candidates (path name : String) : List String :=
  (splitAtSeparator ':' path.toList).map fun dir =>
    if dir.isEmpty then name else String.ofList dir ++ "/" ++ name

def executable (place : String) : Running (Except IoError DiskFile) := do
  match ← onDisk (OnDisk.find (pathOf place)) with
  | .error e => return .error e
  | .ok .directory => return .error .accessDenied
  | .ok (.file _ f) => return if f.executable then .ok f else .error .accessDenied

/-- The first place with an executable file. An error other than a missing file is remembered. -/
def search (fault : IoError) : List String → Running (Except IoError String)
  | [] => return .error fault
  | place :: rest => do
    match ← executable place with
    | .ok _ => return .ok place
    | .error .noEntry => search fault rest
    | .error .notDirectory => search fault rest
    | .error e => search e rest

def usualPath : String := "/bin:/usr/bin"

/-- Where a program is, if it is looked for along a path unless its name has a slash. -/
def findAlong (path name : String) : Running (Except IoError String) := do
  if hasSlash name then
    match ← executable name with
    | .ok _ => return .ok name
    | .error e => return .error e
  else search .noEntry (candidates path name)

def find (name : String) : Running (Except IoError String) := do
  findAlong ((value? (← get) "PATH").getD usualPath) name

/-- How much of a file is looked at for its interpreter, in bytes. -/
def headLimit : Nat := 256

def isNull (c : Char) : Bool := c == Char.ofNat 0

def closesName (c : Char) : Bool := isSpace c || isNull c

/-- What a file begins with, null characters behind its end. -/
def head (b : Bytes) : List Char :=
  let shown := (ofOctets (b.take headLimit)).toList
  shown ++ List.replicate (headLimit - shown.length) (Char.ofNat 0)

/-- The line that names an interpreter, in what stands behind its mark. One that does not end there
goes on up to the last character, which is no part of it; but it is none if its first word may go
on beyond that. -/
def interpreterLine? (behind : List Char) : Option (List Char) :=
  let line := behind.takeWhile fun c => c ≠ '\n' ∧ !isNull c
  if (behind.drop line.length).head? = some '\n' then some line
  else if (behind.dropWhile isSpace).any closesName then some behind.dropLast
  else none

/-- The interpreter that the first line of a file names, and the argument behind it, which is all
the rest of the line up to a null character. The name is empty if such a character stands in its
place. -/
def interpreter? (b : Bytes) : Option (String × Option String) :=
  match head b with
  | '#' :: '!' :: behind => do
    let line ← interpreterLine? behind
    let words := (line.reverse.dropWhile isSpace).reverse.dropWhile isSpace
    let name := words.takeWhile fun c => !closesName c
    let rest := words.drop name.length
    let argument :=
      if rest.head?.any isSpace then
        some (String.ofList ((rest.dropWhile isSpace).takeWhile fun c => !isNull c))
      else none
    if words.isEmpty then none else some (String.ofList name, argument)
  | _ => none

/-- What starting a program comes down to: a tool of the system, with all its arguments. -/
structure Start where
  tool : String
  arguments : List String
  deriving DecidableEq, Repr

/-- What becomes of starting the file at a place, with its interpreters followed up to a depth. The
arguments begin with the name that the program is told. -/
def resolve : Nat → String → List String → Running (Except IoError Start)
  | 0, _, _ => return .error .tooManyLevels
  | depth + 1, place, arguments => do
    match ← executable place with
    | .error e => return .error e
    | .ok f =>
      match f.tool, interpreter? f.content with
      | some name, _ => return .ok { tool := name, arguments := arguments }
      | none, some (name, argument) =>
        if name.isEmpty then return .error .accessDenied
        else resolve depth name (name :: argument.toList ++ place :: arguments.drop 1)
      | none, none => return .error .notExecutable

def interpreterLimit : Nat := 6

def argumentLimit : Nat := 131071

def starting (place : String) (arguments : List String) : Running (Except IoError Start) := do
  if arguments.any fun a => argumentLimit < a.length then return .error .argumentTooLong
  else resolve interpreterLimit place arguments

end WasmBundle.Shell.Program
