import WasmBundle.Path

/-!
# Dependency rules

A rule for `make` says that an output depends on the shim and the artifacts it was built from.
Spaces inside a path are escaped, so that the rule can be read back.
-/

namespace WasmBundle.DependencyRule

def escapeChar (c : Char) : List Char := if c = ' ' then ['\\', ' '] else [c]

def escape (p : Path) : List Char := p.text.toList.flatMap escapeChar

/-- The rule for an output. -/
def render (output shim : Path) (report : List Path) : String :=
  String.ofList
    (escape output ++ ':' :: (shim :: report).flatMap (fun p => ' ' :: escape p) ++ ['\n'])

end WasmBundle.DependencyRule
