import WasmBundle.FileSource
import WasmBundle.Increasing

/-!
# File stores in memory

A store holds files under pairwise inequivalent paths, in the order of their components. A file
inserted under an equivalent path replaces the content and keeps the first spelling.
-/

namespace WasmBundle

structure StoredFile where
  path : Path
  bytes : Bytes
  deriving DecidableEq, Repr

namespace StoredFile

def key (f : StoredFile) : List Bytes := f.path.key

/-- The file with the content of another one. -/
def refill (old new : StoredFile) : StoredFile := { old with bytes := new.bytes }

theorem key_refill (old new : StoredFile) : (old.refill new).key = old.key := rfl

end StoredFile

structure Store where
  files : List StoredFile := []
  increasing : Increasing StoredFile.key files := by exact List.Pairwise.nil

namespace Store

def insert (s : Store) (path : Path) (bytes : Bytes) : Store where
  files := Increasing.insert StoredFile.key StoredFile.refill ⟨path, bytes⟩ s.files
  increasing := Increasing.insert_increasing StoredFile.key_refill _ s.increasing

def ofList (files : List (Path × Bytes)) : Store :=
  files.foldl (fun s f => s.insert f.1 f.2) {}

/-- The file under an equivalent path. -/
def find? (s : Store) (path : Path) : Option StoredFile := s.files.find? fun f => f.path ≈ path

def read (s : Store) (path : Path) : Except IoError Bytes :=
  match s.find? path with
  | some f => .ok f.bytes
  | none => .error (.notFound path)

/-- Whether a path is a file directly in the directory whose name is shown as a text that ends as
wanted. -/
def isArtifact (dir : Path) (ending : String) (path : Path) : Bool :=
  path.parent?.any (· ≈ dir) &&
    path.fileText?.any fun name => ending.toList.isSuffixOf name.toList

def artifacts (s : Store) (dir : Path) (extension : String) : List Path :=
  (s.files.map (·.path)).filter (isArtifact dir ("." ++ extension))

def source (s : Store) : FileSource where
  isFile path := (s.find? path).isSome
  read := s.read
  artifacts dir extension := .ok (s.artifacts dir extension)
  contents := s.files.map (·.bytes)
  mem_contents p b h := by
    unfold read at h
    split at h
    · rename_i f hf
      cases h
      exact List.mem_map_of_mem (List.mem_of_find?_eq_some hf)
    · cases h

end Store

end WasmBundle
