import WasmBundle.FileSource
import WasmBundle.SearchPath

/-!
# Resolving import names

A resolver finds the artifact of an import name in the first root of its search path that has it,
so a nearer module shadows a farther one of the same name. It probes each root for the file, or it
lists a directory of each root once and looks names up in the listings it keeps. Names with
separators denote artifacts below a root. An import name is a text, and the names in a listing are
read as texts.
-/

namespace WasmBundle

inductive ResolveStrategy where
  | probe
  | index
  deriving DecidableEq, Repr

/-- A directory below a search root that could not be listed. -/
structure ListingFailure where
  dir : Path
  cause : IoError
  deriving DecidableEq, Repr

def ListingFailure.message (f : ListingFailure) : String :=
  "Failed to list search root " ++ f.dir.text ++ ": " ++ f.cause.message

/-- Where a listing belongs: the position of its root and the directory below the root. -/
structure Shelf where
  position : Nat
  subdirectory : List Component
  deriving DecidableEq, Repr

structure Resolver where
  searchPath : SearchPath
  extension : String
  strategy : ResolveStrategy := .probe
  /-- The listings read so far. -/
  index : List (Shelf × List Path) := []

/-- The answer of a resolver, the resolver afterwards and the questions it asked. -/
structure Lookup (α : Type) where
  answer : Except ListingFailure α
  resolver : Resolver
  trace : List Consultation

namespace Resolver

def artifactFileName (r : Resolver) (name : String) : String := name ++ "." ++ r.extension

/-- The first candidate that exists, and the probes up to it. -/
def probeRoots (src : FileSource) (file : Path) : List Path → Option Path × List Consultation
  | [] => (none, [])
  | root :: roots =>
    let candidate := root.join file
    if src.isFile candidate then (some candidate, [.probe candidate])
    else
      let (found, trace) := probeRoots src file roots
      (found, .probe candidate :: trace)

/-- The listing kept for a shelf, read on first use. A failed reading is not kept. -/
def listing (src : FileSource) (r : Resolver) (position : Nat) (root subdirectory : Path) :
    Lookup (List Path) :=
  let shelf : Shelf := ⟨position, subdirectory.components⟩
  match r.index.lookup shelf with
  | some paths => ⟨.ok paths, r, []⟩
  | none =>
    let dir := if subdirectory.isEmpty then root else root.join subdirectory
    match src.artifacts dir r.extension with
    | .error e => ⟨.error ⟨dir, e⟩, r, [.listing dir]⟩
    | .ok paths => ⟨.ok paths, { r with index := (shelf, paths) :: r.index }, [.listing dir]⟩

/-- The last path of a listing whose file name is shown as the text. -/
def lookup? (paths : List Path) (leaf : String) : Option Path :=
  paths.reverse.find? fun p => p.fileText? = some leaf

/-- Looks a file name up in the listings of the roots, from a position on. -/
def lookupRoots (src : FileSource) (subdirectory : Path) (leaf : String) :
    Resolver → Nat → List Path → Lookup (Option Path)
  | r, _, [] => ⟨.ok none, r, []⟩
  | r, position, root :: roots =>
    let here := listing src r position root subdirectory
    match here.answer with
    | .error e => ⟨.error e, here.resolver, here.trace⟩
    | .ok paths =>
      match lookup? paths leaf with
      | some p => ⟨.ok (some p), here.resolver, here.trace⟩
      | none =>
        let later := lookupRoots src subdirectory leaf here.resolver (position + 1) roots
        { later with trace := here.trace ++ later.trace }

/-- The artifact of an import name. Only the index strategy can fail. -/
def resolve (src : FileSource) (r : Resolver) (name : String) : Lookup (Option Path) :=
  let file : Path := r.artifactFileName name
  match r.strategy with
  | .probe =>
    let (found, trace) := probeRoots src file r.searchPath.roots
    ⟨.ok found, r, trace⟩
  | .index =>
    lookupRoots src (file.parent?.getD "") (file.fileText?.getD "") r 0 r.searchPath.roots

end Resolver

end WasmBundle
