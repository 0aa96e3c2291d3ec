import WasmBundle.Shell.Expansion

/-!
# Redirections

Before a command runs, its redirections are expanded, then carried out one after another. Names of
the form `/dev/fd/3` stand for descriptors.
-/

namespace WasmBundle.Shell

inductive Opening where
  | file (descriptor : Nat) (mode : OpenMode) (name : String)
  /-- Makes a descriptor what another one is, or closes it. -/
  | duplicate (descriptor : Nat) (source : Option Nat)
  | document (descriptor : Nat) (text : String)
  deriving DecidableEq, Repr

namespace Channels

open Running

def deviceDescriptor? (name : String) : Option Nat :=
  match name with
  | "/dev/stdin" => some 0
  | "/dev/stdout" => some 1
  | "/dev/stderr" => some 2
  | _ =>
    let start := "/dev/fd/".toList
    if start.isPrefixOf name.toList then
      Numeral.count? (String.ofList (name.toList.drop start.length))
    else none

def streamFor (number : Nat) (f : DiskFile) (appends : Bool) : Stream :=
  match f.kind with
  | .regular => .file number 0 appends
  | .channel => .file number 0 true
  | .null => .null
  | .zeros => .zeros
  | .full => .full

def openExisting (name : String) (appends : Bool) : Running (Except IoError Stream) := do
  match ← onDisk (OnDisk.find (pathOf name)) with
  | .error e => return .error e
  | .ok .directory => return if appends then .error .isDirectory else .ok .directory
  | .ok (.file n f) => return .ok (streamFor n f appends)

/-- Whether something must not be written over: a file, or a link that leads nowhere. -/
def isProtected (name : String) : Running Bool := do
  if hasOption (← get) 'C' then
    match ← onDisk (OnDisk.find (pathOf name)) with
    | .ok (.file _ f) => return f.kind == .regular
    | .ok .directory => return false
    | .error _ => return (← onDisk (OnDisk.findEntry (pathOf name))) matches .ok _
  else return false

/-- Opens a file for a purpose; for writing it is made if need be. -/
def openFile (mode : OpenMode) (name : String) : Running (Except IoError Stream) := do
  let path := pathOf name
  match mode with
  | .read => openExisting name false
  | .write =>
    if ← isProtected name then return .error .alreadyExists
    else
      match ← writeFile path [] with
      | .error e => return .error e
      | .ok () => openExisting name false
  | .overwrite =>
    match ← writeFile path [] with
    | .error e => return .error e
    | .ok () => openExisting name false
  | .append =>
    match ← onDisk (OnDisk.find path) with
    | .ok _ => openExisting name true
    | .error _ =>
      match ← writeFile path [] with
      | .error e => return .error e
      | .ok () => openExisting name true
  | .both =>
    match ← onDisk (OnDisk.find path) with
    | .ok (.file n f) => return .ok (streamFor n f false)
    | _ =>
      match ← writeFile path [] with
      | .error e => return .error e
      | .ok () => openExisting name false

def openFault (mode : OpenMode) (e : IoError) : String :=
  match e with
  | .noEntry => if mode = .read then "No such file" else "Directory nonexistent"
  | .notDirectory => if mode = .read then "No such file" else "Directory nonexistent"
  | e => e.reason

def cannotOpen {α : Type} (mode : OpenMode) (name : String) (e : IoError) : Running α :=
  fail ((if mode = .read then "cannot open " else "cannot create ") ++ name ++ ": " ++
    openFault mode e)

/-- What is open once a device that stands for a descriptor is: its file, opened anew, or what the
descriptor has itself; its number. -/
def openDevice (mode : OpenMode) (descriptor : Nat) : Running (Option Nat) := do
  match streamOf? (← get) descriptor with
  | none => return none
  | some (_, .file n _ _) =>
    if mode matches .write ∨ mode matches .overwrite then store n []
    return some (← addStream (.file n 0 (mode matches .append)))
  | some (i, _) => return some i

def Opening.target : Opening → Nat
  | .file descriptor _ _ => descriptor
  | .duplicate descriptor _ => descriptor
  | .document descriptor _ => descriptor

/-- Carries out a redirection. Where descriptors are put aside for later, one that cannot be made
like another one is closed before that is told. -/
def establish (putsAside : Bool) : Opening → Running Unit
  | .document descriptor text => do
    connect descriptor (← addStream (.source (octets text)))
  | .duplicate descriptor none => disconnect descriptor
  | .duplicate descriptor (some source) => do
    match (← get).descriptors.lookup source with
    | some i => connect descriptor i
    | none =>
      if putsAside then disconnect descriptor
      fail (toString source ++ ": " ++ IoError.badDescriptor.reason)
  | .file descriptor mode name => do
    match deviceDescriptor? name with
    | some source =>
      match ← openDevice mode source with
      | some i => connect descriptor i
      | none => cannotOpen mode name .noEntry
    | none =>
      match ← openFile mode name with
      | .ok s => connect descriptor (← addStream s)
      | .error e => cannotOpen mode name e

def sourceOf (text : String) : Running (Option Nat) := do
  match text.toList with
  | ['-'] => return none
  | [c] =>
    if c.isDigit then return some (c.toNat - '0'.toNat) else badDescriptor
  | _ => badDescriptor
where
  badDescriptor : Running (Option Nat) := do
    modify fun p => { p with line := p.lineRead }
    fail "Syntax error: Bad fd number"

def expand (capture : Command → Running String) : Redirection → Running Opening
  | .file descriptor mode target => do
    return .file descriptor mode (← Expansion.text capture target)
  | .duplicate descriptor source => do
    return .duplicate descriptor (← sourceOf (← Expansion.text capture source))
  | .document descriptor body => do
    return .document descriptor (Expansion.textOf (← Expansion.fragments capture false body))

/-- The status of an error of the shell in some work, if there was one. -/
def faultIn (work : Running Unit) : Running (Option Nat) :=
  tryCatch (do
      work
      return none)
    fun
    | .fault status => return some status
    | e => throw e

/-- Runs something with redirections, which end with it. One that fails ends the shell where
`isFatal` says so, and else gives the status. -/
def during (openings : List Opening) (isFatal : Bool) (work : Running Nat) : Running Nat := do
  let before := (← get).descriptors
  let targets := openings.map Opening.target
  try
    match ← faultIn (openings.forM (establish true)) with
    | none => work
    | some status => if isFatal then throw (.fault status) else return status
  finally
    modify fun p =>
      { p with
        descriptors := before.filter (fun d => targets.contains d.1) ++
          p.descriptors.filter fun d => !targets.contains d.1 }

end Channels

end WasmBundle.Shell
