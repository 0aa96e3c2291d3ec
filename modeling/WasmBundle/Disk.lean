import WasmBundle.Disk.Tree

/-!
# Disks

A disk has entries, each at a location: the names on the way from the root. An entry is a directory,
a name of a file, or a link to a path. Several entries can name one file, so files are numbered
apart from them. A path is followed from the root or from the working directory, one part after
another; every part must be looked up in a directory, `..` leads to the directory that holds it, and
a link leads to where its path does. The text of the path counts, so `file/` and `missing/../file`
lead nowhere.
-/

namespace WasmBundle

/-- What becomes of bytes that are written to a file. -/
inductive FileKind where
  /-- They replace what the file holds. -/
  | regular
  /-- They are lost. -/
  | null
  /-- They are lost; reading gives zeros without end. -/
  | zeros
  /-- They are refused; reading gives zeros without end. -/
  | full
  /-- They are added to those before them, and none is given back. -/
  | channel
  deriving DecidableEq, Repr

structure DiskFile where
  bytes : Bytes := []
  attributes : Attributes := { mode := 0o644 }
  kind : FileKind := .regular
  /-- The tool of the system that the file is, if it is one. -/
  tool : Option String := none
  deriving DecidableEq, Repr

namespace DiskFile

/-- What reading a file gives. -/
def content (f : DiskFile) : Bytes := if f.kind = .regular then f.bytes else []

/-- A file is executable if it is for anyone. -/
def executable (f : DiskFile) : Bool := f.attributes.mode &&& 0o111 != 0

/-- Puts bytes into a file at a time. -/
def receive (f : DiskFile) (time : Int) (bytes : Bytes) : DiskFile :=
  match f.kind with
  | .regular =>
    { f with bytes := bytes, attributes := { f.attributes with time := time }, tool := none }
  | .channel => { f with bytes := f.bytes ++ bytes }
  | _ => f

end DiskFile

structure Disk where
  /-- The root, with the entries below it. -/
  tree : Tree := .emptyDirectory
  /-- The files, each numbered by its position. -/
  files : List DiskFile := []
  workingDirectory : Location := []
  /-- The time of the next change. -/
  clock : Int := 0

/-- What is found behind all links. -/
inductive Node where
  | directory
  | file (number : Nat) (f : DiskFile)
  deriving DecidableEq, Repr

namespace Disk

def lookup? (d : Disk) (l : Location) : Option Entry := (d.tree.at? l).map Tree.entry

/-- The entries below the root. -/
def entries (d : Disk) : List (Location × Entry) := d.tree.list.drop 1

/-- What an entry names, if that is no link. -/
def node? (d : Disk) (l : Location) : Option Node :=
  match d.lookup? l with
  | some (.directory _) => some .directory
  | some (.file n) => d.files[n]?.map (.file n)
  | _ => none

def isDirectoryAt (d : Disk) (l : Location) : Bool := d.node? l = some .directory

/-! ## Following paths -/

/-- Where a part of a path leads, going by the text alone. -/
def follow (l : Location) (part : Bytes) : Location :=
  if Path.ignorable part then l
  else if part = Path.up then l.dropLast
  else l ++ [part]

/-- The longest name a file may have, in bytes. -/
def nameLimit : Nat := 255

/-- The longest path that can be followed, in bytes. -/
def pathLimit : Nat := 4095

/-- How many links one path may lead through. -/
def linkLimit : Nat := 40

/-- Why a path cannot be followed, whatever the disk holds. -/
def fault? (p : Path) : Option IoError :=
  if p.bytes.contains 0 then some .nulInPath
  else if pathLimit < p.bytes.length then some .nameTooLong
  else if p.isEmpty then some .noEntry
  else none

/-- A way into a disk: the names from a place back to the root, each with what is there. -/
abbrev Way := List (Bytes × Tree)

def Way.location (w : Way) : Location := (w.map (·.1)).reverse

/-- What is at the end of a way. -/
def here (d : Disk) : Way → Tree
  | [] => d.tree
  | (_, t) :: _ => t

/-- The way on to a location from the end of another one. -/
def wayOn? (d : Disk) (w : Way) : Location → Option Way
  | [] => some w
  | name :: rest => ((d.here w).child? name).bind fun t => d.wayOn? ((name, t) :: w) rest

/-- The parts of a path between separators. -/
def parts (p : Path) : List Bytes := splitAtSeparator Path.separator p.bytes

/-- Where parts lead from the end of a way, through a number of links at most. With `mayBeNew`
set, nothing need be there at the end. -/
def walk (d : Disk) (mayBeNew : Bool) :
    Nat → Way → List Bytes → Except IoError Location
  | _, w, [] => .ok w.location
  | links, w, part :: rest =>
    match (d.here w).entry with
    | .directory _ =>
      if Path.ignorable part then d.walk mayBeNew links w rest
      else if part = Path.up then d.walk mayBeNew links w.tail rest
      else if nameLimit < part.length then .error .nameTooLong
      else
        match (d.here w).child? part with
        | none =>
          if mayBeNew ∧ rest = [] then .ok (Way.location w ++ [part]) else .error .noEntry
        | some t =>
          match t.entry with
          | .link target =>
            match links with
            | 0 => .error .tooManyLevels
            | links + 1 =>
              d.walk mayBeNew links (if target.isAbsolute then [] else w) (parts target ++ rest)
          | _ => d.walk mayBeNew links ((part, t) :: w) rest
    | _ => .error .notDirectory
termination_by links _ l => (links, l.length)

/-- The way to where the following of a path begins. -/
def start (d : Disk) (p : Path) : Except IoError Way :=
  if p.isAbsolute then .ok []
  else
    match d.wayOn? [] d.workingDirectory with
    | some w => .ok w
    | none => .error .noEntry

/-- Follows parts of a path from where the path begins. -/
def walkFrom (d : Disk) (mayBeNew : Bool) (p : Path) (l : List Bytes) :
    Except IoError Location :=
  match d.start p with
  | .error e => .error e
  | .ok w => d.walk mayBeNew linkLimit w l

/-- The location a path leads to. -/
def locate (d : Disk) (p : Path) : Except IoError Location :=
  match fault? p with
  | some e => .error e
  | none => d.walkFrom false p (parts p)

/-- The parts of a path up to the last one that is not empty. -/
def namedParts (p : Path) : List Bytes := ((parts p).reverse.dropWhile List.isEmpty).reverse

/-- Whether a separator follows the last name of a path, which must then be a directory's. -/
def isMarked (p : Path) : Bool := (namedParts p).length < (parts p).length

/-- The location a path leads to for a file that may be new. -/
def target (d : Disk) (p : Path) : Except IoError Location :=
  match fault? p with
  | some e => .error e
  | none => d.walkFrom true p (namedParts p)

/-- Where a part of a path leads from a location, which must be a directory. -/
def enter (d : Disk) (l : Location) (part : Bytes) : Except IoError Location :=
  match d.node? l with
  | none => .error .noEntry
  | some (.file ..) => .error .notDirectory
  | some .directory =>
    if Path.ignorable part then .ok l
    else if part = Path.up then .ok l.dropLast
    else if nameLimit < part.length then .error .nameTooLong
    else .ok (l ++ [part])

/-- The location of the entry that a path names, new or not; a link there is not followed. -/
def place (d : Disk) (p : Path) : Except IoError Location :=
  match fault? p, (namedParts p).getLast? with
  | some e, _ => .error e
  | none, none => .ok []
  | none, some last =>
    match d.walkFrom false p (namedParts p).dropLast with
    | .error e => .error e
    | .ok l => d.enter l last

/-- The entry that a path names, with its location. A link is followed only if a separator is
behind its name. -/
def findEntry (d : Disk) (p : Path) : Except IoError (Location × Entry) :=
  match if isMarked p then d.locate p else d.place p with
  | .error e => .error e
  | .ok l =>
    match d.lookup? l with
    | some e => .ok (l, e)
    | none => .error .noEntry

/-- The location where the following of a path begins, if it is met in a directory. -/
def origin (here : Location) (p : Path) : Location := if p.isAbsolute then [] else here

/-- The locations that are looked at when a path is followed. -/
def trailFrom (d : Disk) : Nat → Location → List Bytes → List Location
  | _, l, [] => [l]
  | links, l, part :: rest =>
    match d.lookup? (follow l part) with
    | some (.link target) =>
      match links with
      | 0 => [l, follow l part]
      | links + 1 =>
        l :: follow l part :: d.trailFrom links (origin l target) (parts target ++ rest)
    | _ => l :: d.trailFrom links (follow l part) rest
termination_by links _ l => (links, l.length)

def trail (d : Disk) (p : Path) : List Location :=
  d.trailFrom linkLimit (origin d.workingDirectory p) (parts p)

/-- What a path leads to. -/
def find (d : Disk) (p : Path) : Except IoError Node :=
  match d.locate p with
  | .error e => .error e
  | .ok l =>
    match d.node? l with
    | some n => .ok n
    | none => .error .noEntry

def isFile (d : Disk) (p : Path) : Bool :=
  match d.find p with
  | .ok (.file _ f) => f.kind == .regular
  | _ => false

def isDirectory (d : Disk) (p : Path) : Bool :=
  match d.find p with
  | .ok .directory => true
  | _ => false

def read (d : Disk) (p : Path) : Except IoError Bytes :=
  match d.find p with
  | .ok (.file _ f) => .ok f.content
  | .ok .directory => .error .isDirectory
  | .error e => .error e

theorem mem_files_of_node {d : Disk} {l : Location} {n : Nat} {f : DiskFile}
    (h : d.node? l = some (.file n f)) : f ∈ d.files := by
  unfold node? at h
  split at h
  · cases h
  · obtain ⟨g, hg, hgf⟩ := Option.map_eq_some_iff.1 h
    cases hgf
    exact List.mem_of_getElem? hg
  · cases h

theorem mem_files_of_find {d : Disk} {p : Path} {n : Nat} {f : DiskFile}
    (h : d.find p = .ok (.file n f)) : f ∈ d.files := by
  unfold find at h
  split at h
  · cases h
  · split at h
    · rename_i hn
      cases h
      exact mem_files_of_node hn
    · cases h

/-- The names of what a directory holds, in increasing order. -/
def namesIn (d : Disk) (l : Location) : List Bytes :=
  match d.tree.at? l with
  | none => []
  | some t => ((t.children.map (·.1)).eraseDups).mergeSort fun a b => decide (a ≤ b)

/-! ## Changes -/

/-- Puts an entry at a location. What is below a directory stays there. -/
def setEntry (d : Disk) (l : Location) (e : Entry) : Disk :=
  let new : Tree :=
    match e with
    | .directory a => .directory a (((d.tree.at? l).map Tree.children).getD [])
    | _ => .leaf e
  { d with tree := new.put l d.tree }

/-- Takes an entry away, with all below it; a file stays as long as it has another name or is
open. -/
def unlink (d : Disk) (l : Location) : Disk := { d with tree := d.tree.cut l }

/-- Puts the entry at a location, with all below it, at another one. -/
def moveTree (d : Disk) (source target : Location) : Disk :=
  match d.tree.at? source with
  | none => d
  | some t => { d with tree := t.put target (d.tree.cut source) }

/-- Puts a new file at a location. -/
def addFile (d : Disk) (l : Location) (f : DiskFile) : Disk :=
  { d.setEntry l (.file d.files.length) with files := d.files ++ [f] }

/-- Makes a new file of a mode at a location. -/
def create (d : Disk) (mode : Nat) (l : Location) : Disk :=
  d.addFile l { attributes := { mode := mode, time := d.clock } }

/-- Makes a new directory of a mode at a location. -/
def createDirectory (d : Disk) (mode : Nat) (l : Location) : Disk :=
  d.setEntry l (.directory { mode := mode, time := d.clock })

def editFile (d : Disk) (number : Nat) (edit : DiskFile → DiskFile) : Disk :=
  { d with files := d.files.modify number edit }

/-- Changes the attributes of what is at a location. -/
def editAttributes (d : Disk) (l : Location) (edit : Attributes → Attributes) : Disk :=
  match d.lookup? l with
  | some (.file n) => d.editFile n fun f => { f with attributes := edit f.attributes }
  | some (.directory a) => if l = [] then d else d.setEntry l (.directory (edit a))
  | _ => d

/-- Puts bytes into the file of a number. -/
def put (d : Disk) (number : Nat) (bytes : Bytes) : Disk :=
  d.editFile number fun f => f.receive d.clock bytes

/-- The time that new disks are at, in nanoseconds. -/
def presentTime : Int := 1767225600000000000

/-- The modes of new files, unless something is masked out. -/
def fileMode : Nat := 0o644

/-- Puts bytes into the file at a location, which is made with a mode if it is new. -/
def writeAt (d : Disk) (l : Location) (bytes : Bytes) (mode : Nat) : Except IoError Disk :=
  match d.node? l with
  | some .directory => .error .isDirectory
  | some (.file n f) => if f.kind = .full ∧ bytes ≠ [] then .error .noSpace else .ok (d.put n bytes)
  | none => .ok ((d.create mode l).put d.files.length bytes)

/-- Writes a file, new or not. -/
def write (d : Disk) (p : Path) (bytes : Bytes) (mode : Nat := fileMode) : Except IoError Disk := do
  let l ← d.target p
  if isMarked p then .error .isDirectory else d.writeAt l bytes mode

/-- Removes the file or the link that a path names. -/
def remove (d : Disk) (p : Path) : Except IoError Disk := do
  let l ← d.place p
  match d.lookup? l with
  | none => .error .noEntry
  | some (.directory _) => .error .isDirectory
  | some _ => if isMarked p then .error .notDirectory else .ok (d.unlink l)

/-- The directories on the way to a location, and the location itself, become directories. -/
def addDirectories (d : Disk) (l : Location) : Disk :=
  { d with tree := d.tree.addDirectories { mode := directoryMode, time := d.clock } l }

end Disk

end WasmBundle
