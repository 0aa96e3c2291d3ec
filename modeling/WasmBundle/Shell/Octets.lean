import WasmBundle.Path
import WasmBundle.Text

/-!
# Text as bytes

A shell works on bytes, whatever text they encode. Its text is kept in strings in which every
character stands for one byte; `ofOctets` and `octets` lead there and back.
-/

namespace WasmBundle.Shell

def ofOctets (b : Bytes) : String := String.ofList (b.map fun x => Char.ofNat x.toNat)

def octets (s : String) : Bytes := s.toList.map fun c => c.toNat.toUInt8

def inward (s : String) : String := ofOctets (Bytes.utf8 s)

def outward (s : String) : String := String.ofList (lossyText (octets s))

def pathOf (s : String) : Path := ⟨octets s⟩

/-- The parts of a text that a sign closes, each without it. -/
def recordsOf (sign : Char) (cs : List Char) : List (List Char) :=
  match (splitAtSeparator sign cs).reverse with
  | [] :: rest => rest.reverse
  | parts => parts.reverse

/-- The lines of a text, each without the line end that closes it. -/
def lines (cs : List Char) : List (List Char) := recordsOf '\n' cs

/-- Lines, each closed by a line end. -/
def unlines (l : List (List Char)) : List Char := l.flatMap fun line => line ++ ['\n']

def isSpace (c : Char) : Bool := c = ' ' ∨ c = '\t'

def isNameStart (c : Char) : Bool := c.isAlpha ∨ c = '_'

def isNameChar (c : Char) : Bool := c.isAlphanum ∨ c = '_'

/-- Whether a text can be the name of a variable. -/
def isName (cs : List Char) : Bool :=
  match cs with
  | [] => false
  | c :: r => isNameStart c && r.all isNameChar

def apostrophe : Char := Char.ofNat 39

/-- The mark around a command whose output is taken, in its old form. -/
def graveAccent : Char := Char.ofNat 96

/-- A name between apostrophes, as messages show it. -/
def quoted (name : String) : String :=
  String.ofList (apostrophe :: name.toList ++ [apostrophe])

end WasmBundle.Shell
