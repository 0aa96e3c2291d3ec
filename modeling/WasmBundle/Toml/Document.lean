import WasmBundle.Toml.Scalar

/-!
# TOML documents

A document is a sequence of lines, each of which adds to one tree of tables: a header opens a table,
a key with its value goes into the table opened last. Nothing may be defined twice.
-/

namespace WasmBundle.Toml

open TextReader

/-- Values in brackets with commas between them; one may follow the last. -/
def arrayOf (element : TextReader Value) : TextReader Value := do
  char '['
  whitespace
  let first ← optional do
    let v ← element
    whitespace
    return v
  match first with
  | none =>
    char ']'
    return .array []
  | some v =>
    let others ← many do
      char ','
      whitespace
      let v ← element
      whitespace
      return v
    let _ ← optional (char ',')
    whitespace
    char ']'
    return .array (v :: others)

/-- A key, an equals sign and a value. -/
def keyValue (value : TextReader Value) : TextReader ((List String × String) × Value) := do
  let key ← dottedKey
  char '='
  blanks
  return (key, ← value)

/-- Keys and values in braces with commas between them, on one line. -/
def inlineTableOf (value : TextReader Value) : TextReader Value := do
  char '\x7b'
  let first ← optional do
    let kv ← keyValue value
    blanks
    return kv
  let others ← match first with
    | none => pure []
    | some _ => many do
      char ','
      let kv ← keyValue value
      blanks
      return kv
  blanks
  char '\x7d'
  let pairs := first.toList ++ others
  StateT.lift <| pairs.foldlM (fun t kv => t.assign? kv.1.1 kv.1.2 kv.2) (.table .inline [])

/-- A value in which arrays and inline tables are nested at most as deep as allowed. -/
def valueWithin : Nat → TextReader Value
  | 0 => scalar
  | depth + 1 => do
    match ← peek with
    | some '[' => arrayOf (valueWithin depth)
    | some '\x7b' => inlineTableOf (valueWithin depth)
    | _ => scalar

/-- How deep arrays and inline tables may be nested. -/
def depthLimit : Nat := 79

def value : TextReader Value := valueWithin depthLimit

/-- What one item of a document does. -/
inductive Item where
  | openTable (front : List String) (key : String)
  | addTable (front : List String) (key : String)
  | assign (front : List String) (key : String) (value : Value)
  | nothing

def item : TextReader Item := do
  match (← get).take 2 with
  | '[' :: '[' :: _ =>
    keyword ['[', '[']
    let (front, key) ← dottedKey
    keyword [']', ']']
    lineRest
    return .addTable front key
  | '[' :: _ =>
    char '['
    let (front, key) ← dottedKey
    char ']'
    lineRest
    return .openTable front key
  | '#' :: _ =>
    comment
    lineEnd
    return .nothing
  | '\n' :: _ =>
    char '\n'
    return .nothing
  | _ =>
    let ((front, key), v) ← keyValue value
    lineRest
    return .assign front key v

/-- All items up to the end of the document. -/
def items : TextReader (List Item) := do
  blanks
  let l ← many do
    let i ← item
    blanks
    return i
  if (← peek).isNone then return l else failure

/-- A document in the making: its tree, and the path to the table opened last. -/
structure Draft where
  tree : Value := .table .header []
  opened : List String := []

def Draft.add? (d : Draft) : Item → Option Draft
  | .nothing => some d
  | .openTable front key => do
    return ⟨← d.tree.openTable? front key, front ++ [key]⟩
  | .addTable front key => do
    return ⟨← d.tree.addTable? front key, front ++ [key]⟩
  | .assign front key v => do
    return { d with tree := ← Value.alter? false (·.assign? front key v) d.opened d.tree }

/-- Every carriage return before a line feed is dropped. -/
def unixLines : List Char → List Char
  | '\r' :: '\n' :: r => '\n' :: unixLines r
  | c :: r => c :: unixLines r
  | [] => []

/-- A mark of the byte order at the start of a text is no part of it. -/
def withoutMark : List Char → List Char
  | '\ufeff' :: r => r
  | cs => cs

/-- The table a document describes, if it is one. -/
def parse? (text : String) : Option Value := do
  let (l, _) ← items (unixLines (withoutMark text.toList))
  let d ← l.foldlM Draft.add? {}
  return d.tree

end WasmBundle.Toml
