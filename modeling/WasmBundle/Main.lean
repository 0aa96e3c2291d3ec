import WasmBundle.CommandLine
import WasmBundle.Shell.Launch

/-!
# The program

The outer layer of the command line. A run is a function of the disk, so it is repeated on what has
been looked at so far until it asks about nothing that has not been looked at; only then is what it
changed written back and shown.
-/

namespace WasmBundle.CommandLine

/-- The part of the disk that has been looked at. -/
structure Snapshot where
  disk : Disk
  looked : List Location := []
  listed : List Location := []

/-- The text of a location. -/
def locationText (l : Location) : String := (Location.path l).text

/-- The location that a text of the system names. -/
def locationOfText (s : String) : Location :=
  (Disk.parts s).filter fun part => part ≠ []

namespace Snapshot

/-- The disk of devices and tools, of which nothing need be looked at. -/
def known : Disk := Shell.systemDisk Shell.Tool.names []

/-- The mode of a file by its permissions as they are known here: scripts are executable. -/
def modeOf (bytes : Bytes) : Nat := if bytes.take 2 == Bytes.utf8 "#!" then 0o755 else 0o644

/-- Looks at a location. What is another place in truth counts as a link to it. -/
def look (s : Snapshot) (l : Location) : IO Snapshot := do
  if s.looked.contains l then return s
  let s := { s with looked := l :: s.looked }
  if let some (.file _ f) := known.node? l then
    return { s with disk := s.disk.addFile l f }
  match ← (IO.FS.realPath (locationText l)).toBaseIO with
  | .error _ => return s
  | .ok path =>
    let place := locationOfText path.toString
    if place ≠ l ∧ l ≠ [] then
      return { s with disk := s.disk.setEntry l (.link (Location.path place)) }
    let attributes : Attributes := { mode := 0o755 }
    match (← path.metadata).type with
    | .dir =>
      if l = [] then return s
      return { s with disk := s.disk.setEntry l (.directory attributes) }
    | .file =>
      let bytes := (← IO.FS.readBinFile path).data.toList
      let attributes := { attributes with mode := modeOf bytes }
      return { s with disk := s.disk.addFile l { bytes := bytes, attributes := attributes } }
    | _ => return s

/-- Looks at everything in a directory. -/
def list (s : Snapshot) (l : Location) : IO Snapshot := do
  if s.listed.contains l then return s
  let s := { s with listed := l :: s.listed }
  match ← ((← IO.FS.realPath "/").join (locationText l)).readDir.toBaseIO with
  | .error _ => return s
  | .ok entries => entries.foldlM (fun s e => s.look (l ++ [Bytes.utf8 e.fileName])) s

/-- Looks at everything along a path, with the links on it. -/
partial def lookAlong (s : Snapshot) (p : Path) : IO Snapshot := do
  match (s.disk.trail p).filter fun l => !s.looked.contains l with
  | [] => return s
  | l => lookAlong (← l.foldlM look s) p

def consult (s : Snapshot) (c : Consultation) : IO Snapshot := do
  match c with
  | .probe p => s.lookAlong p
  | .reading p => s.lookAlong p
  | .listing p =>
    let s ← s.lookAlong p
    match s.disk.locate p with
    | .ok l => s.list l
    | .error _ => return s

def size (s : Snapshot) : Nat := s.looked.length + s.listed.length

end Snapshot

/-- Repeats a run until everything it asks about has been looked at. -/
partial def settle {α : Type} (work : OnDisk α) (s : Snapshot) : IO (α × Disk × Disk) := do
  let (answer, session) := work.run { disk := s.disk }
  let next ← session.consulted.foldlM Snapshot.consult s
  if next.size = s.size then return (answer, s.disk, session.disk) else settle work next

/-- Removes what is at a location. -/
def removeAt (l : Location) : Entry → IO Unit
  | .directory _ => IO.FS.removeDirAll (locationText l)
  | _ => IO.FS.removeFile (locationText l)

/-- Makes the changes between two states of a disk. Links are written as what they lead to. -/
def writeBack (before after : Disk) : IO Unit := do
  for (l, e) in before.entries do
    if (after.lookup? l).isNone then
      let _ ← (removeAt l e).toBaseIO
  for l in (after.entries.map (·.1)).mergeSort fun a b => a.length ≤ b.length do
    if (before.lookup? l) ≠ after.lookup? l then
      if after.isDirectory (Location.path l) then IO.FS.createDirAll (locationText l)
  for (l, _) in after.entries do
    match after.find (Location.path l) with
    | .ok (.file _ f) =>
      let isSame :=
        match before.find (Location.path l) with
        | .ok (.file _ g) => g.bytes == f.bytes
        | _ => false
      unless f.kind != .regular || isSame do
        IO.FS.writeBinFile (locationText l) ⟨f.bytes.toArray⟩
    | _ => pure ()

/-- The variables of the environment. -/
def readVariables : IO (List (String × String)) := do
  match ← (IO.FS.readBinFile "/proc/self/environ").toBaseIO with
  | .error _ => return []
  | .ok b =>
    let entries := splitAtSeparator (Char.ofNat 0) (lossyText b.data.toList)
    return entries.filterMap fun e =>
      let name := e.takeWhile (· ≠ '=')
      if name.isEmpty ∨ name.length = e.length then none
      else some (String.ofList name, String.ofList (e.drop (name.length + 1)))

end WasmBundle.CommandLine

open WasmBundle WasmBundle.CommandLine in
def main (arguments : List String) : IO UInt32 := do
  let environment ← readVariables
  let start : Disk :=
    { workingDirectory := locationOfText (← IO.currentDir).toString, clock := Disk.presentTime }
  let work := run (Shell.launcher environment) (fun name => environment.lookup name)
    (arguments.map Bytes.utf8)
  let (outcome, before, after) ← settle work { disk := start }
  writeBack before after
  IO.print outcome.output
  IO.eprint outcome.errors
  return outcome.status.toUInt32
