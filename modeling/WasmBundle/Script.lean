import WasmBundle.Bundle

/-!
# Bundles as scripts

A bundle is rendered as one module of JavaScript: the shim, a registration for each bundled module
in increasing order of names, and an exported function that runs the root module. Names are string
literals of JSON; bytes are decimal numbers that fill a buffer of the stated size.
-/

namespace WasmBundle.Script

/-- A character inside a string literal. Quotes, backslashes and control characters are escaped. -/
def escapeChar (c : Char) : List Char :=
  if c = '"' then ['\\', '"']
  else if c = '\\' then ['\\', '\\']
  else if c = '\n' then ['\\', 'n']
  else if c = '\r' then ['\\', 'r']
  else if c = '\t' then ['\\', 't']
  else if c.toNat = 8 then ['\\', 'b']
  else if c.toNat = 12 then ['\\', 'f']
  else if c.toNat < 32 then
    ['\\', 'u', '0', '0', Nat.digitChar (c.toNat / 16), Nat.digitChar (c.toNat % 16)]
  else [c]

/-- A name as a string literal. -/
def quote (name : String) : String :=
  String.ofList ('"' :: name.toList.flatMap escapeChar ++ ['"'])

/-- The numbers of a byte string with commas between them. -/
def byteList (b : Bytes) : String := ",".intercalate (b.map fun x => toString x.toNat)

/-- An expression for a buffer that holds exactly the bytes. -/
def arrayBuffer (b : Bytes) : String :=
  "(function() \x7b var buffer = new ArrayBuffer(" ++ toString b.length ++
    "); new Uint8Array(buffer).set([" ++ byteList b ++ "]); return buffer; \x7d)()"

/-- The line that registers a module. -/
def registration (entry : String × Bytes) : String :=
  "grainModules[" ++ quote entry.1 ++ "] = runner.loadBuffer(" ++ arrayBuffer entry.2 ++ ");\n"

/-- Between the shim and the registrations. -/
def preamble : String :=
  "\n\n" ++
  "var grainModules = \x7b\x7d;\n" ++
  "var runner = Grain.buildGrainRunner(function(name) \x7b\n" ++
  "  return grainModules[name];\n" ++
  "\x7d);\n\n"

/-- The exported function that runs the root module. -/
def entryPoint (root : Bytes) : String :=
  "\nmodule.exports = function(imports) \x7b\n" ++
  "  if (imports && runner.addJSImports) runner.addJSImports(imports);\n\n" ++
  "  return runner\n" ++
  "    .runBufferUnboxed(" ++ arrayBuffer root ++ ")\n" ++
  "    .then(function(result) \x7b\n" ++
  "      return Grain.grainToString(runner, result);\n" ++
  "    \x7d);\n" ++
  "\x7d;\n"

def render (b : Bundle) : String :=
  b.shim ++ preamble ++ String.join (b.modules.entries.map registration) ++ entryPoint b.root

end WasmBundle.Script
