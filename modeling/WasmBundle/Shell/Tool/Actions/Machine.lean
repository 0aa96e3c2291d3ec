import WasmBundle.Shell.Process
import WasmBundle.Shell.Tool.Actions.Program
import WasmBundle.Shell.Tool.Actions.Records
import WasmBundle.Shell.Tool.Actions.Table

/-!
# Machines that work through records

The state of a running program of actions: the values of its names, its tables, the record with its
fields, and what is open. Work on it can leave what is in progress.
-/

namespace WasmBundle.Shell.Actions

/-- What an argument of a function stands for. -/
inductive Slot where
  | value (v : Value)
  | table (number : Nat)

instance : Inhabited Slot := ⟨.value .unset⟩

/-- Something open to be read. -/
structure Intake where
  name : String
  /-- The status of the command it comes from, if it comes from one. -/
  status : Option Nat := none
  text : Array Char
  place : Nat := 0

/-- Something open to be written. -/
structure Outlet where
  name : String
  isCommand : Bool := false
  /-- The number of the stream of a file. -/
  stream : Nat := 0
  /-- What is still to be written, the last part first. -/
  parts : List String := []

structure Machine where
  program : Program
  values : Std.HashMap String Value := {}
  tables : Array Table := #[]
  /-- The numbers of the tables that names stand for. -/
  tableNumbers : Std.HashMap String Nat := {}
  arguments : Array Slot := #[]
  record : Value := .input ""
  /-- The fields of the record, if it was taken apart. -/
  fields : Option (Array Value) := none
  separator : Separator := .blanks
  closing : Closing := .sign '\n'
  intakes : List Intake := []
  outlets : List Outlet := []
  /-- What is still to be printed, the last part first. -/
  printed : List String := []
  /-- The input in work. -/
  main : Option Intake := none
  /-- The number of the argument that is the next input. -/
  nextInput : Nat := 1
  /-- Whether any argument was an input. -/
  hadInput : Bool := false
  /-- The numbers of the rules between whose first and last record the work is. -/
  within : List Nat := []
  status : Nat := 0
  seed : Value := .number 0
  chance : Nat := 0

/-- How work can leave what is in progress. -/
inductive Leave where
  | stopLoop
  | nextTurn
  | nextRecord
  | nextFile
  | giveBack (v : Value)
  | exit
  /-- A fault ends the program, with a message. -/
  | fault (message : String)

abbrev Work := ExceptT Leave (StateT Machine Running)

def perform {α : Type} (work : Running α) : Work α := ExceptT.lift (StateT.lift work)

namespace Machine

/-- The value of a name that does not stand for a number of fields. -/
def valueOf (m : Machine) (name : String) : Value := (m.values[name]?).getD .unset

def setValue (name : String) (v : Value) : Work Unit :=
  modify fun m => { m with values := m.values.insert name v }

/-- The format in which numbers are made texts. -/
def format (m : Machine) : String := (m.valueOf "CONVFMT").toText "%.6g"

def printFormat (m : Machine) : String := (m.valueOf "OFMT").toText "%.6g"

def textOf (v : Value) : Work String := do
  match v with
  | .number _ => return v.toText (← get).format
  | _ => return v.toText ""

def textNamed (name : String) : Work String := do textOf ((← get).valueOf name)

/-- A fault of the running program, with where it was. -/
def fault {α : Type} (message : String) : Work α := do
  let file ← textNamed "FILENAME"
  let inFile ← textNamed "FNR"
  let inAll ← textNamed "NR"
  let place := "\n\tFILENAME=\"" ++ file ++ "\" FNR=" ++ inFile ++ " NR=" ++ inAll
  throw (.fault ("run time error: " ++ message ++ place))

def regexOf (text : String) : Work Regex := do
  match Matching.read text with
  | .ok r => return r
  | .error e => fault ("regular expression compile failed (" ++ e.message ++ ")\n" ++ text)

def separatorOf (text : String) : Work Separator := do
  match Separator.ofText text with
  | .ok s => return s
  | .error e => fault ("regular expression compile failed (" ++ e.message ++ ")\n" ++ text)

def closingOf (text : String) : Work Closing := do
  match Closing.ofText text with
  | .ok c => return c
  | .error e => fault ("regular expression compile failed (" ++ e.message ++ ")\n" ++ text)

/-- Adds a table; its number. -/
def addTable (t : Table) : Work Nat :=
  modifyGet fun m => (m.tables.size, { m with tables := m.tables.push t })

/-- The number of the table that a name stands for. -/
def tableOf : Name → Work Nat
  | .shared text => do
    match (← get).tableNumbers[text]? with
    | some n => return n
    | none =>
      let n ← addTable {}
      modify fun m => { m with tableNumbers := m.tableNumbers.insert text n }
      return n
  | .argument i => do
    match (← get).arguments[i]? with
    | some (.table n) => return n
    | _ =>
      let n ← addTable {}
      modify fun m => { m with arguments := m.arguments.setIfInBounds i (.table n) }
      return n

def onTable {α : Type} (number : Nat) (work : Table → α × Table) : Work α :=
  modifyGet fun m =>
    let t := (m.tables[number]?).getD {}
    let m := { m with tables := m.tables.setIfInBounds number {} }
    let (a, t) := work t
    (a, { m with tables := m.tables.setIfInBounds number t })

/-- Sets an element of a table, which may be new. -/
def setElement (number : Nat) (k : Key) (v : Value) : Work Unit :=
  onTable number fun t =>
    let (_, t) := t.demand k
    ((), t.put k v)

def split : Work (Array Value) := do
  let m ← get
  match m.fields with
  | some l => return l
  | none =>
    let l := ((m.separator.parts (← textOf m.record)).map Value.input).toArray
    modify fun m => { m with fields := some l }
    return l

/-- The value of a field; that of number zero is the record. -/
def field (i : Nat) : Work Value := do
  if i = 0 then return (← get).record
  else
    let l ← split
    return (l[i - 1]?).getD .unset

def join (l : Array Value) : Work Unit := do
  let m ← get
  let text := (← textNamed "OFS").intercalate (l.toList.map fun v => v.toText m.printFormat)
  modify fun m => { m with record := .input text, fields := some l }

def setRecord (v : Value) : Work Unit := modify fun m => { m with record := v, fields := none }

def resized (l : Array Value) (size : Nat) : Array Value :=
  l.extract 0 size ++ Array.replicate (size - l.size) (.text "")

def setField (i : Nat) (v : Value) : Work Unit := do
  if i = 0 then setRecord v
  else
    let l ← split
    let l := if l.size < i then resized l i else l
    join (l.setIfInBounds (i - 1) v)

/-- The number of a field that a value says. -/
def fieldNumber (v : Value) : Work Nat := do
  let n := Layout.signedOf v.toFloat
  if n < 0 then fault ("negative field index $" ++ toString n)
  else return n.toNat

def load : Name → Work Value
  | .argument i => do
    match (← get).arguments[i]? with
    | some (.value v) => return v
    | _ => return .unset
  | .shared name => do
    if name = "NF" then return .ofNat (← split).size
    else return (← get).valueOf name

/-- Sets the value of a name. Some names tell how records are worked on. -/
def save : Name → Value → Work Unit
  | .argument i, v =>
    modify fun m => { m with arguments := m.arguments.setIfInBounds i (.value v) }
  | .shared name, v => do
    match name with
    | "NF" =>
      let n := Layout.signedOf v.toFloat
      if n < 0 then fault "negative value assigned to NF"
      let l ← split
      join (resized l n.toNat)
    | "FS" =>
      let _ ← split
      let s ← separatorOf (← textOf v)
      modify fun m => { m with separator := s }
      setValue name v
    | "RS" =>
      let c ← closingOf (← textOf v)
      modify fun m => { m with closing := c }
      setValue name v
    | _ => setValue name v

/-- Where a value can be put. -/
inductive Place where
  | name (n : Name)
  | field (i : Nat)
  | element (table : Nat) (k : Key)

def Place.load : Place → Work Value
  | .name n => Machine.load n
  | .field i => Machine.field i
  | .element t k => onTable t fun t => t.demand k

def Place.save (p : Place) (v : Value) : Work Unit :=
  match p with
  | .name n => Machine.save n v
  | .field i => setField i v
  | .element t k => setElement t k v

def countUp (name : String) : Work Unit := do
  setValue name (.number (((← get).valueOf name).toFloat + 1))

end Machine

end WasmBundle.Shell.Actions
