import WasmBundle.Shell.Builtin.Control
import WasmBundle.Shell.Mode
import WasmBundle.Shell.Token

/-!
# Commands on places and names

The commands that change the working directory and that tell what a name stands for.
-/

namespace WasmBundle.Shell.Builtin

open Running

def workingPlace : Running String := do
  return ofOctets (Location.path (← onDisk get).disk.workingDirectory).bytes

def currentPlace : Running String := do
  match value? (← get) "PWD" with
  | some place => return place
  | none => workingPlace

/-- A place reached from another one by the text of a path alone. -/
def placeAfter (place path : String) : String :=
  let start := if (pathOf path).isAbsolute then [] else Disk.parts (pathOf place)
  ofOctets (Location.path ((start ++ Disk.parts (pathOf path)).foldl Disk.follow [])).bytes

/-- Goes to a directory, by the place that the text of the path leads to or by the disk itself. -/
def enter (physical : Bool) (path : String) : Running Bool := do
  let here ← currentPlace
  let target := if physical then path else placeAfter here path
  let found ← onDisk (OnDisk.ask [.reading (pathOf target)] fun d =>
    match d.locate (pathOf target) with
    | .ok l => if d.isDirectoryAt l then some l else none
    | .error _ => none)
  match found with
  | none => return false
  | some l =>
    onDisk (modify fun s => { s with disk := { s.disk with workingDirectory := l } })
    modify fun p =>
      { p with tracked := p.tracked.filter fun e => e.2.toList.head? = some '/' }
    let place ← if physical then workingPlace else pure target
    assign "OLDPWD" here
    change "OLDPWD" fun v => { v with exported := true }
    assign "PWD" place
    change "PWD" fun v => { v with exported := true }
    return true

def changeDirectory (arguments : List String) : Running Nat := do
  let (letters, operands) ← options ['L', 'P'] arguments
  let p ← get
  let (target, shows) :=
    match operands with
    | [] => ((value? p "HOME").getD "", false)
    | "-" :: _ => ((value? p "OLDPWD").getD "", true)
    | a :: _ => (a, false)
  let target := if target.isEmpty then "." else target
  if ← enter (letters.getLast? = some 'P') target then
    if shows then print ((← currentPlace) ++ "\n")
    return 0
  else fail ("can't cd to " ++ target)

def printPlace (arguments : List String) : Running Nat := do
  let (letters, _) ← options ['L', 'P'] arguments
  let place ← if letters.getLast? = some 'P' then workingPlace else currentPlace
  print (place ++ "\n")
  return 0

/-- Where a program is that a shell looks for, which then keeps it in mind. -/
def findTracked (name : String) : Running (Except IoError String) := do
  let p ← get
  if Program.hasSlash name then return .ok name
  else if let some place := p.tracked.lookup name then return .ok place
  else
    let found ← Program.findAlong (searchPath p) name
    match found with
    | .ok place => modify fun p => { p with tracked := p.tracked ++ [(name, place)] }
    | .error _ => pure ()
    return found

def trackedTableSize : Nat := 31

/-- Looks for programs, so that they are kept in mind. -/
def trackAll (builtins : List String) : List String → Running Nat
  | [] => return 0
  | name :: rest => do
    let isKnown := builtins.contains name || (← get).functions.any (·.name == name)
    let status ←
      if isKnown then pure 0
      else
        modify fun p => { p with tracked := p.tracked.filter (·.1 != name) }
        match ← findTracked name with
        | .ok _ => pure 0
        | .error e =>
          warn (name ++ ": " ++ (executionFault e).1)
          pure 1
    return max status (← trackAll builtins rest)

/-- Shows the programs that were found, or forgets them, or looks for some. -/
def track (builtins : List String) (arguments : List String) : Running Nat := do
  let (letters, operands) ← options ['r'] arguments
  if letters.contains 'r' then
    modify fun p => { p with tracked := [] }
    return 0
  else if operands.isEmpty then
    for e in byBucket trackedTableSize (← get).tracked do print (e.2 ++ "\n")
    return 0
  else trackAll builtins operands

inductive Denotation where
  | keyword
  | replaced (text : String)
  | function
  | special
  | builtin
  | program (place : String) (isTracked : Bool)
  | nothing

/-- What a name stands for as a command, with programs looked for along a path if one is given. -/
def denotation (builtins : List String) (path : Option String) (name : String) :
    Running Denotation := do
  if (Keyword.ofText? name).isSome then return .keyword
  else if let some text := (← get).aliases.lookup name then return .replaced text
  else if (← get).functions.any (·.name == name) then return .function
  else if Reading.specialNames.contains name then return .special
  else if builtins.contains name then return .builtin
  else if let some place := (← get).tracked.lookup name then return .program place true
  else
    let found ←
      if Program.hasSlash name then
        match ← onDisk (OnDisk.find (pathOf name)) with
        | .ok _ => pure (.ok name)
        | .error e => pure (.error e)
      else
        match path with
        | some path => Program.findAlong path name
        | none => findTracked name
    match found with
    | .ok place => return .program place false
    | .error _ => return .nothing

/-- Tells what names stand for, in full. -/
def describeAll (builtins : List String) (path : Option String) : List String → Running Nat
  | [] => return 0
  | name :: rest => do
    let told := fun text => do
      print (name ++ text ++ "\n")
      return 0
    let status ←
      match ← denotation builtins path name with
      | .keyword => told " is a shell keyword"
      | .function => told " is a shell function"
      | .special => told " is a special shell builtin"
      | .builtin => told " is a shell builtin"
      | .replaced text => told (" is an alias for " ++ text)
      | .program place isTracked =>
        told (" is" ++ (if isTracked then " a tracked alias for " else " ") ++ place)
      | .nothing =>
        print (name ++ ": not found\n")
        pure 127
    let others ← describeAll builtins path rest
    return if others = 0 then status else others

def locate (builtins : List String) (path : Option String) (name : String) : Running Nat := do
  match ← denotation builtins path name with
  | .nothing => return 127
  | .program place _ =>
    print (place ++ "\n")
    return 0
  | .replaced text =>
    print ("alias " ++ aliasText (name, text))
    return 0
  | _ =>
    print (name ++ "\n")
    return 0

def usualPath : String := "/usr/sbin:/usr/bin:/sbin:/bin"

def describe (builtins : List String) (arguments : List String) : Running Nat := do
  let (letters, operands) ← options ['p', 'v', 'V'] arguments
  match operands with
  | [] => return 0
  | name :: _ =>
    let path := if letters.contains 'p' then some usualPath else none
    if letters.contains 'V' then describeAll builtins path [name] else locate builtins path name

/-- What a mask leaves to the owner, the group and others. -/
def shownMask (mask : Nat) : String :=
  let left := Mode.less 0o777 mask
  let share := fun (n : Nat) =>
    String.ofList ((Mode.shownThree (n % 8) false 'x').filter (· ≠ '-'))
  "u=" ++ share (left / 64) ++ ",g=" ++ share (left / 8) ++ ",o=" ++ share left

def mask (arguments : List String) : Running Nat := do
  let (letters, operands) ← options ['S'] arguments
  let before := (← get).mask
  match operands with
  | [] => print (if letters.isEmpty then Mode.octal 4 before ++ "\n" else shownMask before ++ "\n")
  | text :: _ =>
    if text.toList.head?.any Char.isDigit then
      if text.toList.all Mode.isOctal then
        modify fun p => { p with mask := Numeral.ofDigits 8 text.toList % 512 }
      else fail ("Illegal number: " ++ text)
    else
      match Mode.after? {} text (Mode.less 0o777 before) with
      | some mode => modify fun p => { p with mask := Mode.less 0o777 mode }
      | none => fail ("Illegal mode: " ++ text)
  return 0

end WasmBundle.Shell.Builtin
