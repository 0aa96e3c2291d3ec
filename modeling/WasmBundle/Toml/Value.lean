/-!
# TOML values

Every table remembers how it came about, because that decides whether a document may still add to
it: an inline table is closed, a table with a header of its own may not be reopened, a table that
dotted keys made may only be extended by dotted keys.
-/

namespace WasmBundle.Toml

inductive Origin where
  | inline
  | header
  /-- Implied by the header of a table below it. -/
  | superTable
  | dotted
  deriving DecidableEq, Repr

inductive Value where
  | string (text : String)
  | integer (n : Int)
  /-- A floating point number as it is written. -/
  | float (literal : String)
  | boolean (b : Bool)
  /-- A date, a time or both, as written. -/
  | moment (literal : String)
  | array (elements : List Value)
  /-- Tables collected under a header in double brackets. -/
  | tables (elements : List Value)
  | table (origin : Origin) (entries : List (String × Value))
  deriving Inhabited, Repr

namespace Value

/-- The table that a key leads into, which is new if there is nothing under the key. -/
def enter? (viaDotted : Bool) : Option Value → Option Value
  | none => some (.table (if viaDotted then .dotted else .superTable) [])
  | some (.table origin entries) =>
    if origin = .inline ∨ (viaDotted ∧ origin = .header) then none else some (.table origin entries)
  | some (.tables elements) => elements.getLast?
  | some _ => none

/-- Puts a changed table back in the place of the old value. -/
def replaced (new : Value) : Value → Value
  | .tables elements => .tables (elements.dropLast ++ [new])
  | _ => new

/-- Puts a changed table back under its key. -/
def place (key : String) (new : Value) : List (String × Value) → List (String × Value)
  | [] => [(key, new)]
  | (k, old) :: rest =>
    if k = key then (k, replaced new old) :: rest else (k, old) :: place key new rest

/-- Changes the table at the end of a path of keys. -/
def alter? (viaDotted : Bool) (change : Value → Option Value) : List String → Value → Option Value
  | [], t => change t
  | key :: keys, .table origin entries => do
    let child ← enter? viaDotted (entries.lookup key)
    let new ← alter? viaDotted change keys child
    return .table origin (place key new entries)
  | _ :: _, _ => none

/-- Adds a value under a key that must be new. -/
def define? (t : Value) (key : String) (v : Value) : Option Value :=
  match t with
  | .table origin entries =>
    if (entries.lookup key).isSome then none else some (.table origin (entries ++ [(key, v)]))
  | _ => none

/-- Adds a value at the end of a dotted key. The tables on the way must come from dotted keys. -/
def assign? (t : Value) (front : List String) (key : String) (v : Value) : Option Value :=
  let change : Value → Option Value := fun u =>
    match u with
    | .table .dotted _ => u.define? key v
    | _ => if front.isEmpty then u.define? key v else none
  alter? true change front t

/-- Opens the table a header names. -/
def openTable? (t : Value) (front : List String) (key : String) : Option Value :=
  let change : Value → Option Value
    | .table origin entries =>
      match entries.lookup key with
      | none => some (.table origin (place key (.table .header []) entries))
      | some (.table .superTable inner) =>
        some (.table origin (place key (.table .header inner) entries))
      | some _ => none
    | _ => none
  alter? false change front t

/-- Adds a table to the collection a header in double brackets names. -/
def addTable? (t : Value) (front : List String) (key : String) : Option Value :=
  let change : Value → Option Value
    | .table origin entries =>
      match entries.lookup key with
      | none => some (.table origin (entries ++ [(key, .tables [.table .header []])]))
      | some (.tables elements) =>
        let longer := (key, .tables (elements ++ [.table .header []]))
        some (.table origin (entries.map fun e => if e.1 = key then longer else e))
      | some _ => none
    | _ => none
  alter? false change front t

end Value

end WasmBundle.Toml
