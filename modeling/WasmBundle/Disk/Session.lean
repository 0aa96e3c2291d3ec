import WasmBundle.Disk.Source

/-!
# Working on a disk

A session is a disk that changes, with a record of every question asked about it. Two disks that
give the same answers to those questions give the same session.
-/

namespace WasmBundle

structure Session where
  disk : Disk
  consulted : List Consultation := []

abbrev OnDisk := StateM Session

namespace OnDisk

def consult (questions : List Consultation) : OnDisk Unit :=
  modify fun s => { s with consulted := s.consulted ++ questions }

/-- Computes from the disk, with the questions that takes. -/
def ask {α : Type} (questions : List Consultation) (answer : Disk → α) : OnDisk α := do
  consult questions
  return answer (← get).disk

def find (p : Path) : OnDisk (Except IoError Node) := ask [.reading p] fun d => d.find p

/-- The entry that a path names; a link is not followed. -/
def findEntry (p : Path) : OnDisk (Except IoError (Location × Entry)) :=
  ask [.reading p] fun d => d.findEntry p

def read (p : Path) : OnDisk (Except IoError Bytes) := ask [.reading p] fun d => d.read p

/-- Reads a file that holds text. -/
def readText (p : Path) : OnDisk (Except IoError String) := do
  match ← read p with
  | .error e => return .error e
  | .ok bytes =>
    match Bytes.text? bytes with
    | some text => return .ok text
    | none => return .error .notText

/-- Changes the disk at a path, unless that is an error. -/
def change (edit : Disk → Path → Except IoError Disk) (p : Path) :
    OnDisk (Except IoError Unit) := do
  match ← ask [.reading p] fun d => edit d p with
  | .error e => return .error e
  | .ok d =>
    modify fun s => { s with disk := d }
    return .ok ()

def write (p : Path) (bytes : Bytes) (mode : Nat := Disk.fileMode) : OnDisk (Except IoError Unit) :=
  change (fun d p => d.write p bytes mode) p

def remove (p : Path) : OnDisk (Except IoError Unit) := change Disk.remove p

end OnDisk

end WasmBundle
