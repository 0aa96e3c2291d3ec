import WasmBundle.Shell.Tool.Actions.Matching

/-!
# Programs of actions

A program has rules, each with a pattern that says when it applies and an action. Names stand for
values or for tables of values; functions have names of their own.
-/

namespace WasmBundle.Shell.Actions

/-- What a name of the program stands for. -/
inductive Name where
  /-- The same everywhere. -/
  | shared (text : String)
  /-- The argument of a number of the function in progress. -/
  | argument (number : Nat)
  deriving DecidableEq, Repr

inductive Operation where
  | add
  | subtract
  | multiply
  | divide
  | remainder
  | power
  deriving DecidableEq, Repr

inductive Comparison where
  | less
  | atMost
  | equal
  | unequal
  | greater
  | atLeast
  deriving DecidableEq, Repr

inductive Term where
  | number (x : Float)
  | text (s : String)
  /-- Whether the record matches. -/
  | regex (r : Regex)
  | name (n : Name)
  | field (number : Term)
  | element (table : Name) (keys : List Term)
  | assign (operation : Option Operation) (place value : Term)
  /-- A place that is counted up or down, as it is before or after that. -/
  | count (before up : Bool) (place : Term)
  | choose (condition yes no : Term)
  | both (a b : Term)
  | either (a b : Term)
  | not (a : Term)
  | negative (a : Term)
  | positive (a : Term)
  | calculate (operation : Operation) (a b : Term)
  | compare (comparison : Comparison) (a b : Term)
  | join (a b : Term)
  /-- Whether a text matches, or that it does not. -/
  | fits (negated : Bool) (text pattern : Term)
  | member (keys : List Term) (table : Name)
  /-- Reads the next record into a place. -/
  | readRecord (place : Option Term)
  | readFile (file : Term) (place : Option Term)
  | readCommand (command : Term) (place : Option Term)
  | call (function : String) (arguments : List Term)
  | builtin (function : String) (arguments : List Term)

/-- Where output goes. -/
inductive Target where
  | file (name : Term)
  | fileEnd (name : Term)
  | command (text : Term)

inductive Statement where
  | nothing
  | evaluate (a : Term)
  | print (items : List Term) (target : Option Target)
  | format (items : List Term) (target : Option Target)
  | block (body : List Statement)
  | choose (condition : Term) (yes : Statement) (no : Option Statement)
  | repeatWhile (condition : Term) (body : Statement)
  | doWhile (body : Statement) (condition : Term)
  | loop (start : Option Term) (condition : Option Term) (step : Option Term) (body : Statement)
  /-- For every key of a table. -/
  | forKeys (place table : Name) (body : Statement)
  | stopLoop
  | nextTurn
  | nextRecord
  | nextFile
  | exit (status : Option Term)
  | giveBack (value : Option Term)
  | delete (table : Name) (keys : Option (List Term))

inductive Pattern where
  | atStart
  | atEnd
  | always
  | when (condition : Term)
  /-- From where one condition holds to where another one does. -/
  | between (first last : Term)

structure Rule where
  pattern : Pattern
  /-- What is done; without it the record is printed. -/
  action : Option Statement

structure Routine where
  name : String
  size : Nat
  body : Statement

structure Program where
  rules : List Rule := []
  routines : List Routine := []

namespace Program

def routine? (p : Program) (name : String) : Option Routine :=
  p.routines.find? (·.name == name)

end Program

end WasmBundle.Shell.Actions
