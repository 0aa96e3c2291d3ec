import WasmBundle.Shell.Tool.Copying
import WasmBundle.Shell.Tool.Making

/-!
# Putting files in place

The tool that copies files to where they are used. A file that is there is replaced and not written
over; what is put in place has permissions that do not depend on those of its source.
-/

namespace WasmBundle.Shell.Placement

open Running Tool

def options : OptionTable where
  flags := ['b', 'c', 's', 'd', 'D', 'p', 'T', 'v', 'C', 'Z']
  valued := ['g', 'm', 'o', 'S', 't']
  optional := [Backup.controlLetter]
  long := [("backup", Backup.controlLetter),
    ("compare", 'C'), ("directory", 'd'), ("group", 'g'), ("mode", 'm'),
    ("no-target-directory", 'T'), ("owner", 'o'), ("preserve-timestamps", 'p'), ("strip", 's'),
    ("suffix", 'S'), ("target-directory", 't'), ("verbose", 'v')]

def usualMode : Nat := 0o755

def setMode (l : Location) (mode : Nat) : Running Unit := do
  setDisk ((← disk).editAttributes l fun (a : Attributes) => { a with mode := mode })

def makeAlong (name : String) (i : Invocation) : List String → Running Nat
  | [] => return 0
  | path :: rest => do
    if ← isDirectory path then return ← makeAlong name i rest
    let refuse := fun (e : IoError) =>
      complain name ("cannot create directory " ++ quotedPath path ++ ": " ++ e.reason)
    match ← found path, ← placeOf path with
    | .ok _, _ => refuse (if rest.isEmpty then .alreadyExists else .notDirectory)
    | .error _, .error e => refuse e
    | .error _, .ok l =>
      if i.has 'v' then print (name ++ ": creating directory " ++ quotedPath path ++ "\n")
      setDisk ((← disk).createDirectory usualMode l)
      makeAlong name i rest

/-- Makes a directory and those above it; its permissions are set also if it was there. -/
def makeDirectory (name : String) (i : Invocation) (mode : Nat) (path : String) :
    Running Nat := do
  let along := pathsAlong path
  let status ← makeAlong name i (if along.isEmpty then [path] else along)
  if status = 0 then
    match ← locationOf path with
    | .ok l => setMode l mode
    | .error _ => pure ()
  return status

/-- Whether a file is at a path already with the content and the permissions it is to have. -/
def isInPlace (mode : Nat) (source target : String) : Running Bool := do
  match ← found source, ← entryOf target with
  | .ok (.file _ f), .ok (_, .file n) =>
    let there := (← disk).files[n]?
    return there.any fun g => g.bytes == f.bytes && g.attributes.mode == mode
  | _, _ => return false

def putAt (name : String) (i : Invocation) (mode : Nat) (source target : String) :
    Running Nat := do
  if i.has 'C' then
    if ← isInPlace mode source target then return 0
  let letters := ['v', 'p', 'b', 'S', Backup.controlLetter]
  let kept := i.options.filter fun o => letters.contains o.1
  let copying : Invocation := { i with options := kept ++ [('L', ""), ('D', "")] }
  let status ← copyTo name copying none (source, target) depthLimit source target
  if status = 0 then
    match ← placeOf target with
    | .ok l => setMode l mode
    | .error _ => pure ()
  return status

/-- Puts files in a directory, which is made if that is wanted. -/
def putInto (name : String) (i : Invocation) (mode : Nat) (dir : String) (sources : List String) :
    Running Nat := do
  let status ← if i.has 'D' then makeAlong name i (pathsAlong dir) else pure 0
  if status ≠ 0 then return status
  intoDirectory name dir { operands := sources } (putAt name i mode) [] sources

def refuseTarget (name text target : String) : Running Nat := do
  let reason :=
    match ← found target with
    | .error e => e.reason
    | .ok _ => IoError.notDirectory.reason
  complain name (text ++ quotedPath target ++ ": " ++ reason)

/-- Puts the last of files where they go: at a path, or in a directory. -/
def putAll (name : String) (i : Invocation) (mode : Nat) : Running Nat := do
  match i.value? 't', i.operands.reverse with
  | some dir, _ =>
    let isMissing := (← found dir) matches .error .noEntry
    if (← isDirectory dir) || (i.has 'D' && isMissing) then putInto name i mode dir i.operands
    else refuseTarget name "failed to access " dir
  | none, target :: sources =>
    if !i.has 'T' && (← isDirectory target) then
      intoDirectory name target { operands := sources } (putAt name i mode) [] sources.reverse
    else
      match sources with
      | [source] =>
        let above := directoryOf target
        let status ← if i.has 'D' then makeAlong name i (pathsAlong above) else pure 0
        if status ≠ 0 then return status
        putAt name i mode source target
      | _ => refuseTarget name "target " target
  | none, [] => return 0

/-- What is wrong with the options and the operands, and whether help is offered for it. -/
def fault? (i : Invocation) : Option (String × Bool) :=
  let isUser := fun (text : String) => text = "root" || (Numeral.count? text).isSome
  if i.has 'd' ∧ i.has 't' then
    some ("target directory not allowed when installing a directory", false)
  else if i.operands.isEmpty then some ("missing file operand", true)
  else if i.operands.length = 1 ∧ !i.has 'd' ∧ !i.has 't' then
    some ("missing destination file operand after " ++ quotedPath (i.operands.headD ""), true)
  else if i.has 'T' ∧ i.has 't' then
    some ("cannot combine --target-directory (-t) and --no-target-directory (-T)", false)
  else if i.has 'T' ∧ 2 < i.operands.length then
    some ("extra operand " ++ quotedPath ((i.operands.drop 2).headD ""), true)
  else
    match (i.value? 'o').filter fun t => !isUser t, (i.value? 'g').filter fun t => !isUser t with
    | some text, _ => some ("invalid user " ++ quotedText text, false)
    | none, some text => some ("invalid group " ++ quotedText text, false)
    | none, none => none

def put : Tool :=
  withOptions options 1 fun _ name i => do
    match fault? i with
    | some (text, true) => misuse name text 1
    | some (text, false) => complain name text
    | none =>
      if let .error text := Backup.control (← get) i then return ← misuse name text 1
      let setting : Mode.Setting := { mask := 0, isDirectory := i.has 'd' }
      match (i.value? 'm').map fun text => Mode.after? setting text 0 with
      | some none => complain name ("invalid mode " ++ quotedText ((i.value? 'm').getD ""))
      | wanted =>
        let mode := wanted.join.getD usualMode
        if i.has 'd' then forEach (makeDirectory name i mode) i.operands
        else putAll name i mode

end WasmBundle.Shell.Placement
