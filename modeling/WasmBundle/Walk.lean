import WasmBundle.Walk.Measure

/-!
# Walking the dependencies of a module

Starting from the bytes of a root module, every module it needs is resolved, read and scanned, and
so are the modules these need. `walk` runs the machine of `WasmBundle.Walk.Machine` to its end,
which it reaches because the source has finitely many files.
-/

namespace WasmBundle

namespace Walk

/-- Runs the machine to its end. -/
def run (src : FileSource) (v : Conventions) (root : Bytes) (s : State)
    (hs : s.Within (nameSupply src v root)) : WalkOutcome :=
  match h : step src v s with
  | .inr outcome => outcome
  | .inl t => run src v root t (within_of_step hs h)
termination_by (s.unloaded v (nameSupply src v root), s.size)
decreasing_by exact step_decreases hs h

/-- The name of the root module in errors. -/
def rootName : String := "<root>"

end Walk

/-- Loads every module the root module needs. -/
def walk (src : FileSource) (v : Conventions) (strategy : ResolveStrategy)
    (searchPath : SearchPath) (root : Bytes) : WalkOutcome :=
  match h : v.imports root with
  | .error e => ⟨.error (.malformed Walk.rootName e), []⟩
  | .ok names =>
    let resolver : Resolver :=
      { searchPath := searchPath, extension := v.artifactExtension, strategy := strategy }
    Walk.run src v root { pending := [names], resolver := resolver } (by
      intro f hf n hn
      refine List.mem_append_left _ ?_
      simp only [List.mem_singleton] at hf
      simp only [Walk.scanned, h]
      exact hf ▸ hn)

end WasmBundle
