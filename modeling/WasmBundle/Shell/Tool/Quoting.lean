import WasmBundle.Shell.Octets

/-!
# Names in messages

How messages of tools show names: in apostrophes with escapes, or in a form that the shell reads
back, with quotes where it needs them or always.
-/

namespace WasmBundle.Shell.Tool

def isPrintable (c : Char) : Bool := 32 ≤ c.toNat ∧ c.toNat < 127

/-- The number of a character in three octal digits, as an escape. -/
def octalEscape (c : Char) : List Char :=
  let digit := fun (k : Nat) => Char.ofNat ('0'.toNat + k % 8)
  ['\\', digit (c.toNat / 64), digit (c.toNat / 8), digit c.toNat]

def escape (c : Char) : List Char :=
  let n := c.toNat
  match n with
  | 7 => ['\\', 'a']
  | 8 => ['\\', 'b']
  | 9 => ['\\', 't']
  | 10 => ['\\', 'n']
  | 11 => ['\\', 'v']
  | 12 => ['\\', 'f']
  | 13 => ['\\', 'r']
  | _ => octalEscape c

/-- A text in apostrophes, with what would be unclear in it escaped. -/
def quotedText (text : String) : String :=
  quoted (String.ofList (text.toList.flatMap fun c =>
    if c = apostrophe ∨ c = '\\' then ['\\', c] else if isPrintable c then [c] else escape c))

def isSpecialSign (c : Char) : Bool :=
  c = graveAccent || " !\"$&()*;<=>[^|?\\".toList.contains c

def isUnclear (cs : List Char) : Bool :=
  cs.isEmpty || cs.head? = some '#' || cs.head? = some '~' || cs = ['\x7b'] || cs = ['\x7d'] ||
    cs.any fun c => isSpecialSign c || c = apostrophe || !isPrintable c

def needsQuotes (cs : List Char) : Bool := isUnclear cs || cs.contains ':'

/-- A name between apostrophes as the shell reads it back; `escapes` says whether the character
before was an escape. -/
def protectedChars : Bool → List Char → List Char
  | _, [] => []
  | escapes, c :: rest =>
    if c = apostrophe then [apostrophe, '\\', apostrophe, apostrophe] ++ protectedChars false rest
    else if isPrintable c then
      (if escapes then [apostrophe, apostrophe] else []) ++ c :: protectedChars false rest
    else
      (if escapes then [] else [apostrophe, '$', apostrophe]) ++ escape c ++
        protectedChars true rest

def quotedPath (name : String) : String :=
  let cs := name.toList
  let isPlain := fun (c : Char) => isPrintable c && (c = ' ' || !isSpecialSign c)
  if cs.contains apostrophe ∧ cs.all isPlain then "\"" ++ name ++ "\""
  else quoted (String.ofList (protectedChars false cs))

/-- A name as it is, or quoted if the shell would not take it so. -/
def shownPath (name : String) : String := if needsQuotes name.toList then quotedPath name else name

end WasmBundle.Shell.Tool
