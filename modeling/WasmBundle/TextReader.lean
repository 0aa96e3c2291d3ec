/-!
# Readers of text

A reader takes the characters that are left and gives a value with the characters after it, or
nothing. A reader that fails leaves its input to the alternative after it.
-/

namespace WasmBundle

abbrev TextReader := StateT (List Char) Option

namespace TextReader

def peek : TextReader (Option Char) := do return (← get).head?

def next : TextReader Char := fun cs =>
  match cs with
  | [] => none
  | c :: r => some (c, r)

def satisfying (p : Char → Bool) : TextReader Char := do
  let c ← next
  if p c then return c else failure

def char (c : Char) : TextReader Unit := do
  let _ ← satisfying (· == c)

def keyword (cs : List Char) : TextReader Unit := fun input =>
  if cs.isPrefixOf input then some ((), input.drop cs.length) else none

def takeWhile (p : Char → Bool) : TextReader (List Char) := fun cs =>
  some (cs.takeWhile p, cs.dropWhile p)

def skipWhile (p : Char → Bool) : TextReader Unit := do
  let _ ← takeWhile p

/-- As many readings as there are, up to a number. -/
def manyUpTo {α : Type} (r : TextReader α) : Nat → TextReader (List α)
  | 0 => return []
  | limit + 1 => fun cs =>
    match r cs with
    | none => some ([], cs)
    | some (x, rest) => (manyUpTo r limit rest).map fun (xs, rest') => (x :: xs, rest')

/-- As many readings as there are, each of which takes a character or more. -/
def many {α : Type} (r : TextReader α) : TextReader (List α) := fun cs =>
  match r cs with
  | none => some ([], cs)
  | some (x, rest) => (manyUpTo r rest.length rest).map fun (xs, rest') => (x :: xs, rest')

end TextReader

end WasmBundle
