import WasmBundle.Shell.Tool.Actions.Matching

/-!
# Records and fields

How a text is taken apart: into records, one after another, and a record into fields; and how the
parts of a text that match are replaced.
-/

namespace WasmBundle.Shell.Actions

inductive Separator where
  | blanks
  /-- Nothing: every character is a field. -/
  | nothing
  | sign (c : Char)
  | pattern (r : Regex)

inductive Closing where
  | sign (c : Char)
  | blankLines
  | pattern (r : Regex)

namespace Separator

def ofText (s : String) : Except Matching.Fault Separator :=
  match s.toList with
  | [] => .ok .nothing
  | [' '] => .ok .blanks
  | [c] => .ok (.sign c)
  | _ => (Matching.read s).map .pattern

def isBlank (c : Char) : Bool := c = ' ' ∨ c = '\t' ∨ c = '\n'

/-- The words between blanks; the one in progress is given backwards. -/
def wordsFrom : List Char → List Char → List String
  | [], [] => []
  | [], word => [String.ofList word.reverse]
  | c :: rest, word =>
    if isBlank c then
      if word.isEmpty then wordsFrom rest [] else String.ofList word.reverse :: wordsFrom rest []
    else wordsFrom rest (c :: word)

/-- The parts between matches that are not empty, from a place on. -/
def partsFrom (r : Regex) (text : Array Char) : Nat → Nat → Nat → List String
  | 0, start, _ => [String.ofList (text.extract start text.size).toList]
  | limit + 1, start, place =>
    match Matching.find? r text place with
    | none => [String.ofList (text.extract start text.size).toList]
    | some (first, last) =>
      if first < last then
        String.ofList (text.extract start first).toList :: partsFrom r text limit last last
      else partsFrom r text limit start (first + 1)

def parts (s : Separator) (text : String) : List String :=
  let cs := text.toList
  if cs.isEmpty then []
  else
    match s with
    | .blanks => wordsFrom cs []
    | .nothing => cs.map fun c => String.ofList [c]
    | .sign c => (splitAtSeparator c cs).map String.ofList
    | .pattern r => partsFrom r cs.toArray (cs.length + 1) 0 0

end Separator

namespace Closing

def ofText (s : String) : Except Matching.Fault Closing :=
  match s.toList with
  | [] => .ok .blankLines
  | [c] => .ok (.sign c)
  | _ => (Matching.read s).map .pattern

/-- The first place from one on where a condition on the place holds, or the end. -/
def placeFrom (holds : Nat → Bool) : Nat → Nat → Nat
  | 0, place => place
  | limit + 1, place => if holds place then place else placeFrom holds limit (place + 1)

def findFrom (r : Regex) (text : Array Char) : Nat → Nat → Option (Nat × Nat)
  | 0, _ => none
  | limit + 1, place =>
    match Matching.find? r text place with
    | none => none
    | some (first, last) =>
      if first < last then some (first, last) else findFrom r text limit (first + 1)

/-- The record at a place, and where the next one may start; none at the end of the text. -/
def record? (e : Closing) (text : Array Char) (place : Nat) : Option (String × Nat) :=
  let part := fun (first last : Nat) => String.ofList (text.extract first last).toList
  let left := text.size - place
  match e with
  | .sign c =>
    if text.size ≤ place then none
    else
      let last := placeFrom (fun i => text[i]? == some c) left place
      some (part place last, last + 1)
  | .blankLines =>
    let first := placeFrom (fun i => text[i]? != some '\n') left place
    if text.size ≤ first then none
    else
      let isGap := fun (i : Nat) => text[i]? == some '\n' && text[i + 1]? == some '\n'
      let last := placeFrom isGap (text.size - first) first
      let isClosed := text.size ≤ last ∧ text.back? = some '\n'
      some (part first (if isClosed then text.size - 1 else last), last)
  | .pattern r =>
    if text.size ≤ place then none
    else
      match findFrom r text (left + 1) place with
      | some (first, last) => some (part place first, last)
      | none => some (part place text.size, text.size)

end Closing

/-- A part of what matches are replaced with: a text, or the match itself. -/
inductive Substitute where
  | text (s : String)
  | same
  deriving DecidableEq, Repr

namespace Substitute

/-- The parts of a text to replace matches with. Of the backslashes before `&`, two stand for one,
and one that is left takes its meaning from the sign. -/
def partsFrom : Nat → List Char → List Substitute
  | 0, _ => []
  | _, [] => []
  | limit + 1, c :: rest =>
    if c = '&' then .same :: partsFrom limit rest
    else if c = '\\' then
      let slashes := (c :: rest).takeWhile (· = '\\')
      let after := (c :: rest).drop slashes.length
      match after with
      | '&' :: others =>
        let kept := String.ofList (slashes.take (slashes.length / 2))
        if slashes.length % 2 = 0 then .text kept :: .same :: partsFrom limit others
        else .text (kept ++ "&") :: partsFrom limit others
      | _ => .text (String.ofList slashes) :: partsFrom limit after
    else .text (String.ofList [c]) :: partsFrom limit rest

def ofText (s : String) : List Substitute := partsFrom s.length s.toList

def apply (l : List Substitute) (found : String) : String :=
  String.join (l.map fun p =>
    match p with
    | .text s => s
    | .same => found)

/-- Replaces matches from a place on, all of them or one; an empty match right behind another one is
none. What is done is given backwards; the number of matches. -/
def replaceFrom (all : Bool) (r : Regex) (l : List Substitute) (text : Array Char) :
    Nat → Nat → Option Nat → List String → Nat → String × Nat
  | 0, place, _, done, count => (finish text place done, count)
  | limit + 1, place, last?, done, count =>
    let part := fun (i j : Nat) => String.ofList (text.extract i j).toList
    match Matching.find? r text place with
    | none => (finish text place done, count)
    | some (first, last) =>
      let done := part place first :: done
      if first = last then
        let done := if last? = some first then done else apply l "" :: done
        let count := if last? = some first then count else count + 1
        if !all then (finish text first done, count)
        else if text.size ≤ first then (finish text first done, count)
        else replaceFrom all r l text limit (first + 1) none (part first (first + 1) :: done) count
      else
        let done := apply l (part first last) :: done
        if all then replaceFrom all r l text limit last (some last) done (count + 1)
        else (finish text last done, count + 1)
where
  finish (text : Array Char) (place : Nat) (done : List String) : String :=
    String.join (String.ofList (text.extract place text.size).toList :: done).reverse

def replace (all : Bool) (r : Regex) (l : List Substitute) (text : String) : String × Nat :=
  let cs := text.toList.toArray
  replaceFrom all r l cs (cs.size + 2) 0 none [] 0

end Substitute

end WasmBundle.Shell.Actions
