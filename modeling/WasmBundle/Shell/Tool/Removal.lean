import WasmBundle.Path.Ancestors
import WasmBundle.Shell.Tool.Operand

/-!
# Removing

Tools that take entries away. A link is removed itself, not what it leads to, and a directory only
when it is empty or with all below it.
-/

namespace WasmBundle.Shell.Tool

open Running

def entryTitle (e : Entry) : Running String := do
  match e with
  | .directory _ => return "directory"
  | .link _ => return "symbolic link"
  | .file n =>
    match (← disk).files[n]? with
    | some f =>
      return if f.kind ≠ .regular then "character special file"
        else if f.content.isEmpty then "regular empty file" else "regular file"
    | none => return "regular file"

/-- Removes what a path names, to a depth. -/
def removeTo (name : String) (i : Invocation) : Nat → String → Running Nat
  | 0, _ => return 1
  | depth + 1, path => do
    let refuse := fun (e : IoError) =>
      complain name ("cannot remove " ++ quotedPath path ++ ": " ++ e.reason)
    let told := fun (title : String) => do
      if i.has 'v' then print ("removed " ++ title ++ quotedPath path ++ "\n")
      return 0
    match ← entryOf path with
    | .error e =>
      if i.has 'f' ∧ (e matches .noEntry ∨ e matches .notDirectory) then return 0 else refuse e
    | .ok (l, .directory _) =>
      let isEmpty := (← namesWithin path).isEmpty
      let wanted := fun (question : String) =>
        if i.has 'i' then
          agrees (name ++ ": " ++ question ++ " directory " ++ quotedPath path ++ "? ")
        else pure true
      if i.has 'r' then
        if [".", ".."].contains (baseName path) then
          complain name ("refusing to remove " ++ quoted "." ++ " or " ++ quoted ".." ++
            " directory: skipping " ++ quotedPath path)
        else if l.isEmpty then
          let _ ← complain name ("it is dangerous to operate recursively on " ++ quotedPath path)
          complain name "use --no-preserve-root to override this failsafe"
        else
          let status ←
            if !isEmpty then
              if ← wanted "descend into" then
                forEach (fun n => removeTo name i depth (inDirectory path n)) (← namesWithin path)
              else pure 0
            else pure 0
          if ← isMarkedLink path then refuse .notDirectory
          else if !(← namesWithin path).isEmpty then return status
          else if ← wanted "remove" then
            setDisk ((← disk).unlink l)
            let _ ← told "directory "
            return status
          else return status
      else if i.has 'd' then
        if isEmpty then
          setDisk ((← disk).unlink l)
          told "directory "
        else refuse .notEmpty
      else refuse .isDirectory
    | .ok (l, e) =>
      if hasMark path then if i.has 'f' then return 0 else refuse .notDirectory
      else
        let title ← entryTitle e
        let question := name ++ ": remove " ++ title ++ " " ++ quotedPath path ++ "? "
        let isWanted ← if i.has 'i' then agrees question else pure true
        if !isWanted then return 0
        else
          setDisk ((← disk).unlink l)
          told ""

def remove : Tool :=
  withOptions
    { flags := ['r', 'R', 'f', 'v', 'd', 'i', 'I', 'o']
      optional := ['P', 'w']
      long := [("recursive", 'r'), ("force", 'f'), ("verbose", 'v'), ("dir", 'd'),
        ("one-file-system", 'o'), ("preserve-root", 'P'), ("no-preserve-root", 'P'),
        ("interactive", 'w')] } 1
    fun _ name i => do
      let i := renamed [('R', 'r')] i
      let last := i.options.reverse.find? fun o => o.1 == 'i' || o.1 == 'f'
      let i : Invocation :=
        if last.any (·.1 == 'i') then { i with options := i.options.filter (·.1 != 'f') }
        else { i with options := i.options.filter (·.1 != 'i') }
      if i.operands.isEmpty ∧ !i.has 'f' then misuse name "missing operand" 1
      else forEach (removeTo name i depthLimit) i.operands

def removeDirectory : Tool :=
  withOptions
    { flags := ['p', 'v', 'F'],
      long := [("parents", 'p'), ("verbose", 'v'), ("ignore-fail-on-non-empty", 'F')] } 1
    fun _ name i => do
      let removeAt := fun (path : String) => do
        let refuse := fun (reason : String) =>
          complain name ("failed to remove " ++ quotedPath path ++ ": " ++ reason)
        if i.has 'v' then print (name ++ ": removing directory, " ++ quotedPath path ++ "\n")
        let names ← namesWithin path
        match ← entryOf path with
        | .error e => refuse e.reason
        | .ok (l, .directory _) =>
          if ← isMarkedLink path then refuse "Symbolic link not followed"
          else if baseName path = "." then refuse IoError.invalidArgument.reason
          else if !names.isEmpty then
            if i.has 'F' then return 0 else refuse IoError.notEmpty.reason
          else
            setDisk ((← disk).unlink l)
            return 0
        | .ok _ => refuse IoError.notDirectory.reason
      let rec removeAll : List String → Running Nat
        | [] => return 0
        | path :: rest => do
          let status ← removeAt path
          if status = 0 then removeAll rest else return status
      if i.operands.isEmpty then misuse name "missing operand" 1
      else if i.has 'p' then
        forEach (fun path =>
          removeAll (((Path.ancestors (pathOf path)).map fun p => ofOctets p.bytes).filter
            fun t => t ≠ "" ∧ t ≠ "/"))
          i.operands
      else forEach removeAt i.operands

/-- Takes one entry away and does nothing else. -/
def unlink : Tool :=
  withOptions {} 1 fun _ name i => do
    match i.operands with
    | [] => misuse name "missing operand" 1
    | [path] =>
      match ← onDisk (OnDisk.remove (pathOf path)) with
      | .ok () => return 0
      | .error e => complain name ("cannot unlink " ++ quotedPath path ++ ": " ++ e.reason)
    | _ :: extra :: _ => misuse name ("extra operand " ++ quotedText extra) 1

end WasmBundle.Shell.Tool
