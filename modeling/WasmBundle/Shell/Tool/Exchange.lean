import WasmBundle.Shell.Tool.Exchange.CharSet
import WasmBundle.Shell.Tool.Invocation

/-!
# Replacing and removing characters

The tool that exchanges the characters of one set for those of another, removes characters, and
squeezes runs of one character together.
-/

namespace WasmBundle.Shell.Exchange

open Running

structure Order where
  complement : Bool
  delete : Bool
  squeezes : Bool
  truncates : Bool

inductive Misfit where
  | fillFirst
  | fillTwice
  | fillUnpaired
  | equivalent
  | unorderedClass
  | misaligned
  | emptySecond
  | classLast
  | complementedClass
  deriving DecidableEq, Repr

def Misfit.message : Misfit → String
  | .fillFirst => "the [c*] repeat construct may not appear in string1"
  | .fillTwice => "only one [c*] repeat construct may appear in string2"
  | .fillUnpaired => "the [c*] construct may appear in string2 only when translating"
  | .equivalent => "[=c=] expressions may not appear in string2 when translating"
  | .unorderedClass =>
    "when translating, the only character classes that may appear in\nstring2 are " ++
      quoted "upper" ++ " and " ++ quoted "lower"
  | .misaligned => "misaligned [:upper:] and/or [:lower:] construct"
  | .emptySecond => "when not truncating set1, string2 must be non-empty"
  | .classLast =>
    "when translating with string1 longer than string2,\n" ++
      "the latter string must not end with a character class"
  | .complementedClass =>
    "when translating with complemented character classes,\n" ++
      "string2 must map all characters in the domain to one"

def Part.isFill : Part → Bool
  | .fill _ => true
  | _ => false

def Part.isEquivalent : Part → Bool
  | .equivalent _ => true
  | _ => false

def Part.isClass : Part → Bool
  | .named _ => true
  | _ => false

/-- Whether classes of letters in the second set stand where one stands in the first set. Both kinds
have the same number of letters, so that they end together if they begin together. -/
def aligned : List Place → List Place → Bool
  | a :: l, b :: m =>
    (b.capital.isNone || (a.capital.isSome && (!b.first || a.first))) && aligned l m
  | [], b :: _ => b.capital.isNone
  | _, [] => true

/-- A set with as many of the character to be filled up as are needed for a size. -/
def filled (size : Nat) (l : List Part) : List Part :=
  let given := (members l).length
  l.map fun
    | .fill c => .repeated c (size - given)
    | part => part

/-- The character that a set is made longer with; a class has none. -/
def lastChar? (l : List Part) : Option Char :=
  match l.getLast? with
  | some (.named _) => none
  | some (.repeated c _) => some c
  | some part => part.members.getLast?
  | none => none

/-- The second set in at least the length of the first one. -/
def extended (o : Order) (size : Nat) (l : List Part) : Except Misfit (List Part) :=
  let given := (members l).length
  if size ≤ given ∨ o.truncates then .ok l
  else if given = 0 then .error .emptySecond
  else
    match lastChar? l with
    | none => .error .classLast
    | some c => .ok (l ++ [.repeated c (size - given)])

def source (o : Order) (first : List Part) : List Char :=
  let chars := members first
  if o.complement then allChars.filter fun c => !chars.contains c else chars

def isUniform (size : Nat) (l : List Part) : Bool :=
  match members l with
  | [] => false
  | c :: rest => rest.length + 1 == size && rest.all (· == c)

def target (o : Order) (first second : List Part) : Except Misfit (List Part) := do
  let size := (source o first).length
  let second := filled size second
  if second.any Part.isEquivalent then throw .equivalent
  if second.any fun p => p.isClass && p.capital?.isNone then throw .unorderedClass
  if !o.complement && !aligned (places first) (places second) then throw .misaligned
  let second ← extended o size second
  if o.complement && first.any Part.isClass && !isUniform size second then
    throw .complementedClass
  return second

/-- Runs of one character of a set become one character. -/
def squeeze (set : List Char) : List Char → List Char
  | a :: b :: rest =>
    if a = b ∧ set.contains a then squeeze set (b :: rest) else a :: squeeze set (b :: rest)
  | cs => cs

/-- What becomes of a character; the last of several meanings counts. -/
def exchanged (pairs : List (Char × Char)) (c : Char) : Char :=
  ((pairs.reverse.find? (·.1 == c)).map (·.2)).getD c

/-- The characters of two sets that belong together. A class of letters that stands for itself says
nothing beyond its first letter. -/
def pairs (o : Order) (first second : List Part) : List (Char × Char) :=
  if o.complement then (source o first).zip (members second)
  else
    ((places first).zip (places second)).filterMap fun (a, b) =>
      if a.capital.isSome ∧ a.capital = b.capital ∧ !a.first then none
      else some (a.char, b.char)

def change (o : Order) (first : List Part) (second : Option (List Part)) :
    Except Misfit (List Char → List Char) := do
  if first.any Part.isFill then throw .fillFirst
  let removed := source o first
  let remove := fun (cs : List Char) => cs.filter fun c => !removed.contains c
  match second with
  | none => return if o.delete then remove else squeeze removed
  | some l =>
    if (l.filter Part.isFill).length > 1 then throw .fillTwice
    if o.delete then
      if l.any Part.isFill then throw .fillUnpaired
      return fun cs => squeeze (members l) (remove cs)
    else
      let l ← target o first l
      let replace := fun (cs : List Char) => cs.map (exchanged (pairs o first l))
      return if o.squeezes then fun cs => squeeze (members l) (replace cs) else replace

def orderFault? (o : Order) (operands : List String) : Option (String × String) :=
  let both := o.delete == o.squeezes
  match operands with
  | [] => some ("missing operand", "")
  | [a] =>
    if !both then none
    else if o.delete then
      some ("missing operand after " ++ Tool.quotedText a,
        "Two strings must be given when both deleting and squeezing repeats.\n")
    else
      some ("missing operand after " ++ Tool.quotedText a,
        "Two strings must be given when translating.\n")
  | [_, b] =>
    if o.delete ∧ !o.squeezes then
      some ("extra operand " ++ Tool.quotedText b,
        "Only one string may be given when deleting without squeezing repeats.\n")
    else none
  | _ :: b :: c :: _ =>
    some ("extra operand " ++ Tool.quotedText (if o.delete ∧ !o.squeezes then b else c), "")

def options : OptionTable where
  flags := ['A', 'c', 'C', 'd', 's', 't']
  long := [("complement", 'c'), ("delete", 'd'), ("squeeze-repeats", 's'), ("truncate-set1", 't')]
  leadingOnly := true

/-- The parts that an operand describes, with its warnings printed. -/
def described (name text : String) : Running (Except SetFault (List Part)) := do
  let (l, warnings) := signs text
  for w in warnings do
    printError (name ++ ": warning: " ++ w ++ "\n")
  return parts l

/-- Changes the input by the sets that the operands describe. -/
def run (name : String) (o : Order) (first : String) (second : Option String) :
    Running Nat := do
  match ← described name first with
  | .error e => complain name e.message
  | .ok a =>
    let b ← match second with
      | none => pure (.ok none)
      | some text => do
        let b ← described name text
        pure (b.map some)
    match b with
    | .error e => complain name e.message
    | .ok b =>
      match change o a b with
      | .error e => complain name e.message
      | .ok apply =>
        match ← readAll 0 with
        | .error e => complain name ("read error: " ++ e.reason)
        | .ok input =>
          print (String.ofList (apply (ofOctets input).toList))
          return 0

def exchange : Tool :=
  Tool.withOptions options 1 fun _ name i => do
    let o : Order :=
      { complement := i.has 'c' || i.has 'C', delete := i.has 'd', squeezes := i.has 's',
        truncates := i.has 't' }
    match orderFault? o i.operands, i.operands with
    | some (text, hint), _ =>
      printError (name ++ ": " ++ text ++ "\n" ++ hint ++ Tool.tryHelp name)
      return 1
    | none, first :: rest => run name o first rest.head?
    | none, [] => return 1

end WasmBundle.Shell.Exchange
