import WasmBundle.Shell.Tool.Lines

/-!
# Inputs of a search

The files that a search reads: those that operands name, and what directories hold, except for the
names that rules leave out.
-/

namespace WasmBundle.Shell.Search

open Running Tool

structure NameRule where
  /-- Whether files with such a name are searched, or are left out. -/
  keeps : Bool
  pattern : String

def tails : List Char → List (List Char)
  | [] => []
  | c :: rest =>
    let others := tails rest
    if c = '/' ∧ rest.head?.any (· ≠ '/') then rest :: others else others

def NameRule.fits (r : NameRule) (isOperand : Bool) (name : String) : Bool :=
  let names := if isOperand then name.toList :: tails name.toList else [name.toList]
  names.any (Pattern.ofText r.pattern).fits

/-- Whether rules leave a name out: the last one that fits decides, and if none does, it is the
opposite of the first one. -/
def leavesOut (rules : List NameRule) (isOperand : Bool) (name : String) : Bool :=
  match rules.reverse.find? fun r => r.fits isOperand name with
  | some r => !r.keeps
  | none => rules.head?.any (·.keeps)

inductive Treatment where
  /-- They are read, which fails. -/
  | reads
  | skips
  | enters
  deriving DecidableEq, Repr

structure Scope where
  treatment : Treatment := .reads
  /-- Whether links within directories are followed. -/
  followsLinks : Bool := false
  files : List NameRule := []
  directories : List NameRule := []

/-- An input, or what is said in its place. -/
inductive Source where
  | input (operand : String) (isWithin : Bool)
  | fault (text : String)
  | warning (text : String)

/-- The inputs within a directory, to a depth. `showsPath` says whether its own path stands before
the names; `outer` are the directories around it. -/
def inputsWithin (s : Scope) : Nat → List Location → Bool → String → Running (List Source)
  | 0, _, _, _ => return []
  | limit + 1, outer, showsPath, path => do
    match ← locationOf path with
    | .error e => return [.fault (path ++ ": " ++ e.reason)]
    | .ok here =>
      if outer.contains here then
        return [.warning (path ++ ": warning: recursive directory loop")]
      else
        let parts ← (← namesWithin path).mapM fun name => do
          let full := if showsPath then inDirectory path name else name
          let below := fun (full : String) => do
            if leavesOut s.directories false name then return []
            else inputsWithin s limit (here :: outer) true full
          let file := if leavesOut s.files false name then [] else [Source.input full true]
          match ← entryOf full with
          | .error e => return [.fault (full ++ ": " ++ e.reason)]
          | .ok (_, .directory _) => below full
          | .ok (_, .file _) => return file
          | .ok (_, .link _) =>
            if !s.followsLinks then return []
            else
              match ← found full with
              | .error e => return [.fault (full ++ ": " ++ e.reason)]
              | .ok .directory => below full
              | .ok (.file ..) => return file
        return parts.flatten

def inputsOf (s : Scope) (operand : String) : Running (List Source) := do
  let file := fun (_ : Unit) => do
    return if leavesOut s.files true operand then [] else [Source.input operand false]
  if operand = "-" then return [.input operand false]
  else if ← isDirectory operand then
    if leavesOut s.directories true operand then return []
    else
      match s.treatment with
      | .reads => return [.input operand false]
      | .skips => return []
      | .enters => inputsWithin s depthLimit [] true operand
  else if (← found operand) matches .error _ then return [.input operand false]
  else file ()

/-- The inputs of all operands; without any it is the standard input, or the current directory where
directories are entered. -/
def inputsOfAll (s : Scope) (operands : List String) : Running (List Source) := do
  if !operands.isEmpty then return (← operands.mapM (inputsOf s)).flatten
  else if s.treatment = .enters then inputsWithin s depthLimit [] false "."
  else return [.input "-" false]

end WasmBundle.Shell.Search
