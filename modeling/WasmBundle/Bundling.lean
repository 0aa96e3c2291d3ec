import WasmBundle.Bundle
import WasmBundle.Walk

/-!
# Bundling

A root module is bundled by walking its dependencies and packing what was loaded with the shim. A
walk that fails gives no bundle.
-/

namespace WasmBundle

/-- A bundle, the artifacts it was built from and the questions asked on the way. -/
structure BundleOutcome where
  answer : Except WalkError (Bundle × List Path)
  trace : List Consultation

def bundle (src : FileSource) (v : Conventions) (strategy : ResolveStrategy)
    (searchPath : SearchPath) (shim : String) (root : Bytes) : BundleOutcome :=
  let walked := walk src v strategy searchPath root
  { answer := walked.answer.map fun r => (⟨shim, .ofList r.modules, root⟩, r.report)
    trace := walked.trace }

end WasmBundle
