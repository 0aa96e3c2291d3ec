import WasmBundle.Conventions
import WasmBundle.Resolver

/-!
# The machine that walks dependencies

A state holds the imports still to be handled, one list a module being worked through, and what has
been loaded. `step` handles the next import of the module entered last, so an import's own imports
come before its siblings, and a name that is loaded is never loaded again.
-/

namespace WasmBundle

inductive WalkError where
  | malformed (name : String) (fault : Wasm.Malformed)
  | unresolved (name : String)
  | unreadable (path : Path) (cause : IoError)
  | listing (failure : ListingFailure)
  deriving DecidableEq, Repr

def WalkError.message : WalkError → String
  | .malformed name fault => "Malformed module " ++ name ++ ": " ++ fault.message
  | .unresolved name => "Could not find required Grain import " ++ name ++ " for bundling"
  | .unreadable path cause => "Failed to read " ++ path.text ++ ": " ++ cause.message
  | .listing failure => failure.message

/-- The source path of an artifact, its `.wasm` ending removed. Only a path that is a text loses
it. -/
def artifactSource (path : Path) : Path :=
  let ending := Bytes.utf8 ".wasm"
  if path.bytes.isText ∧ ending.isSuffixOf path.bytes then
    ⟨path.bytes.take (path.bytes.length - ending.length)⟩
  else path

/-- What a walk has loaded: modules under their qualified names, in order of loading, and the
artifacts they were read from. -/
structure Resolution where
  modules : List (String × Bytes) := []
  report : List Path := []
  deriving DecidableEq, Repr

/-- How a walk ended, and the questions it asked. -/
structure WalkOutcome where
  answer : Except WalkError Resolution
  trace : List Consultation

namespace Walk

/-- Where a walk stands: the imports left of each module being worked through, the innermost
first, and what has been loaded. -/
structure State where
  pending : List (List String)
  loaded : Resolution := {}
  resolver : Resolver
  trace : List Consultation := []

def State.has (s : State) (qualified : String) : Bool :=
  s.loaded.modules.any (·.1 == qualified)

/-- A module found and read. -/
structure Fetched where
  path : Path
  bytes : Bytes
  imports : List String

/-- Resolves an import name, reads the artifact and scans it. -/
def fetch (src : FileSource) (v : Conventions) (r : Resolver) (name qualified : String) :
    Except WalkError Fetched × Resolver × List Consultation :=
  let found := r.resolve src name
  match found.answer with
  | .error e => (.error (.listing e), found.resolver, found.trace)
  | .ok none => (.error (.unresolved name), found.resolver, found.trace)
  | .ok (some path) =>
    let answer :=
      match src.read path with
      | .error e => .error (.unreadable path e)
      | .ok bytes =>
        match v.imports bytes with
        | .error e => .error (.malformed qualified e)
        | .ok imports => .ok ⟨path, bytes, imports⟩
    (answer, found.resolver, found.trace ++ [.reading path])

/-- The state after a module has been loaded. -/
def State.enter (s : State) (rest : List (List String)) (qualified : String) (m : Fetched)
    (resolver : Resolver) (trace : List Consultation) : State where
  pending := m.imports :: rest
  loaded :=
    { modules := s.loaded.modules ++ [(qualified, m.bytes)], report := s.loaded.report ++ [m.path] }
  resolver := resolver
  trace := s.trace ++ trace

/-- Handles the next import, or ends the walk. -/
def step (src : FileSource) (v : Conventions) (s : State) : State ⊕ WalkOutcome :=
  match s.pending with
  | [] => .inr ⟨.ok s.loaded, s.trace⟩
  | [] :: rest => .inl { s with pending := rest }
  | (name :: names) :: rest =>
    match v.classify name with
    | .runtime => .inl { s with pending := names :: rest }
    | .external qualified =>
      if s.has qualified then .inl { s with pending := names :: rest }
      else
        match fetch src v s.resolver name qualified with
        | (.error e, _, trace) => .inr ⟨.error e, s.trace ++ trace⟩
        | (.ok m, resolver, trace) => .inl (s.enter (names :: rest) qualified m resolver trace)

end Walk

end WasmBundle
