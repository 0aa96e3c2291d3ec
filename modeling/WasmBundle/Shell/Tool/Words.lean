import WasmBundle.Shell.Condition
import WasmBundle.Shell.Signal
import WasmBundle.Shell.Tool.Lines

/-!
# Tools on their arguments

Tools that print texts made from their arguments, test conditions, and run other programs with
arguments or variables of their own.
-/

namespace WasmBundle.Shell.Tool

open Running

/-- Options of the printing tool: `n` leaves the line open, `e` and `E` say whether escapes are
replaced. -/
def echoOptions (interprets isOpen : Bool) : List String → Bool × Bool × List String
  | [] => (interprets, isOpen, [])
  | a :: rest =>
    match a.toList with
    | '-' :: c :: letters =>
      if (c :: letters).all ['n', 'e', 'E'].contains then
        let last := ((c :: letters).filter (· ≠ 'n')).getLast?
        echoOptions ((last.map (· == 'e')).getD interprets)
          (isOpen || (c :: letters).contains 'n') rest
      else (interprets, isOpen, a :: rest)
    | _ => (interprets, isOpen, a :: rest)

def echo : Tool := fun _ _ arguments => do
  let (interprets, isOpen, words) := echoOptions false false arguments
  let text := " ".intercalate words
  if interprets then print (Format.echoed (if isOpen then ["-n", text] else [text]))
  else print (text ++ if isOpen then "" else "\n")
  return 0

def reason : Format.Doubt → String
  | .noNumber => "expected a numeric value"
  | .incomplete => "value not completely converted"
  | .outOfRange => "Numerical result out of range"

def formatted : Tool := fun _ name arguments => do
  match if arguments.head? = some "--" then arguments.drop 1 else arguments with
  | [] => misuse name "missing operand" 1
  | format :: rest =>
    let result := Format.run format rest
    let told := result.warnings.reverse.map fun w => quotedText w.argument ++ ": " ++ reason w.doubt
    for text in told ++ result.fault.toList do printError (name ++ ": " ++ text ++ "\n")
    print result.text
    return if result.failed ∨ result.fault.isSome then 1 else 0

def printPlace : Tool := fun _ _ _ => do
  print (ofOctets (Location.path (← onDisk get).disk.workingDirectory).bytes ++ "\n")
  return 0

/-- A condition as a program; what is no condition has a status of its own. -/
def condition (words : List String) : Running Nat :=
  tryCatch (Condition.status words) fun
    | .fault _ => return 2
    | e => throw e

def bracketedCondition : Tool := fun _ name arguments => do
  if arguments.getLast? = some "]" then condition arguments.dropLast
  else
    printError (name ++ ": missing " ++ quoted "]" ++ "\n")
    return 2

def withoutSuffix (suffix name : String) : String :=
  let cs := name.toList
  let rest := cs.take (cs.length - suffix.length)
  if suffix ≠ name ∧ cs.drop rest.length = suffix.toList then String.ofList rest else name

def lastPart : Tool :=
  withOptions
    { flags := ['a', 'z'], valued := ['s'], long := [("multiple", 'a'), ("suffix", 's')],
      leadingOnly := true } 1
    fun _ name i => do
      let display := fun (suffix path : String) =>
        print (withoutSuffix suffix (baseName path) ++ "\n")
      match i.operands with
      | [] => misuse name "missing operand" 1
      | operands =>
        if i.has 'a' ∨ i.has 's' then
          operands.forM (display ((i.value? 's').getD ""))
          return 0
        else
          match operands with
          | path :: rest =>
            match rest with
            | _ :: extra :: _ => misuse name ("extra operand " ++ quotedText extra) 1
            | _ =>
              display (rest.headD "") path
              return 0
          | [] => return 1

def directoryPart : Tool :=
  withOptions { flags := ['z'] } 1 fun _ name i => do
    if i.operands.isEmpty then misuse name "missing operand" 1
    else
      for o in i.operands do print (directoryOf o ++ "\n")
      return 0

inductive Missing where
  | none
  | last
  | any
  deriving DecidableEq

def canonical (missing : Missing) (path : String) : Running (Except IoError Location) := do
  match missing with
  | .none => locationOf path
  | .any =>
    if path.isEmpty then return .error .noEntry
    else
      let p := pathOf path
      onDisk (OnDisk.ask [.reading p] fun d => .ok ((d.trail p).getLast?.getD []))
  | .last =>
    match ← targetOf path with
    | .error e => return .error e
    | .ok l =>
      let isFile := ((← disk).node? l) matches some (.file ..)
      return if hasMark path ∧ isFile then .error .notDirectory else .ok l

def literalPlace (path : String) : Running Location := do
  let p := pathOf path
  return (Disk.parts p).foldl Disk.follow (Disk.origin (← disk).workingDirectory p)

/-- The missing parts that options allow, the last option first. -/
def missingBy (i : Invocation) (usual : Missing) : Missing :=
  match i.options.reverse.find? fun o => ['e', 'm', 'f', 'E'].contains o.1 with
  | some ('e', _) => .none
  | some ('m', _) => .any
  | some _ => .last
  | none => usual

/-- A location as it is shown: from the root, or from another one where that is wanted. -/
def shownPlace (start base : Option Location) (l : Location) : String :=
  match start, base with
  | none, none => pathText l
  | some s, none => relativeText s l
  | _, some b => if b.isPrefixOf l then relativeText (start.getD b) l else pathText l

def realPlace : Tool :=
  withOptions
    { flags := ['e', 'm', 'q', 's', 'z', 'L', 'P', 'E'], valued := ['t', 'b'],
      long := [("canonicalize-existing", 'e'), ("canonicalize-missing", 'm'), ("quiet", 'q'),
        ("strip", 's'), ("no-symlinks", 's'), ("zero", 'z'), ("logical", 'L'), ("physical", 'P'),
        ("relative-to", 't'), ("relative-base", 'b'), ("canonicalize", 'E')] } 1
    fun _ name i => do
      let missing := missingBy i .last
      let place := fun (path : String) => do
        if i.has 's' then return .ok (← literalPlace path)
        else if i.has 'L' then canonical missing (pathText (← literalPlace path))
        else canonical missing path
      let refuse := fun (path : String) (e : IoError) => do
        if i.has 'q' then return 1
        else
          let shown := if path.isEmpty then quotedPath path else shownPath path
          complain name (shown ++ ": " ++ e.reason)
      let placeOf? := fun (path? : Option String) => do
        match path? with
        | none => return Except.ok none
        | some path =>
          match ← place path with
          | .ok l => return .ok (some l)
          | .error e => return .error (path, e)
      if i.operands.isEmpty then misuse name "missing operand" 1
      else
        match ← placeOf? (i.value? 't'), ← placeOf? (i.value? 'b') with
        | .error (path, e), _ => refuse path e
        | _, .error (path, e) => refuse path e
        | .ok start, .ok base =>
          let isOutside := (start.bind fun s => base.map fun b => !b.isPrefixOf s).getD false
          forEach (fun path => do
            match ← place path with
            | .ok l =>
              let shown := if isOutside then pathText l else shownPlace start base l
              print (shown ++ (if i.has 'z' then "\x00" else "\n"))
              return 0
            | .error e => refuse path e) i.operands

/-- The path that a link leads on to, or the place it leads to in the end. -/
def linkTarget : Tool :=
  withOptions
    { flags := ['f', 'e', 'm', 'n', 'q', 's', 'v', 'z'],
      long := [("canonicalize", 'f'), ("canonicalize-existing", 'e'),
        ("canonicalize-missing", 'm'), ("no-newline", 'n'), ("verbose", 'v'), ("zero", 'z'),
        ("quiet", 'q'), ("silent", 's')] } 1
    fun _ name i => do
      let leads := i.has 'f' || i.has 'e' || i.has 'm'
      let isOpen := i.has 'n' && i.operands.length == 1
      let ending := if isOpen then "" else if i.has 'z' then "\x00" else "\n"
      if i.has 'n' ∧ i.operands.length > 1 then
        let _ ← complain name "ignoring --no-newline with multiple arguments"
      if i.operands.isEmpty then misuse name "missing operand" 1
      else
        forEach (fun path => do
          let text ←
            if leads then
              match ← canonical (missingBy i .last) path with
              | .ok l => pure (.ok (pathText l))
              | .error e => pure (Except.error e)
            else
              match ← entryOf path with
              | .ok (_, .link target) => pure (.ok (ofOctets target.bytes))
              | .ok _ => pure (.error .invalidArgument)
              | .error e => pure (.error e)
          match text with
          | .ok shown =>
            print (shown ++ ending)
            return 0
          | .error e =>
            if i.has 'v' then complain name (shownPath path ++ ": " ++ e.reason) else return 1)
          i.operands

def startAs (r : Runner) (name : String) (told : String → String) (arguments : List String) :
    Running Nat := do
  let started ←
    match ← Program.find (arguments.headD "") with
    | .ok place => r.start place arguments
    | .error e => pure (.error e)
  match started with
  | .ok status => return status
  | .error e =>
    let _ ← complain name (told (arguments.headD "") ++ ": " ++ e.reason)
    return if e matches .noEntry then 127 else 126

def setFrom : List String → Running (List String)
  | [] => return []
  | a :: rest => do
    let name := a.toList.takeWhile (· ≠ '=')
    match a.toList.drop name.length with
    | [] => return a :: rest
    | _ :: value =>
      change (String.ofList name) fun v =>
        { v with value := some (String.ofList value), exported := true }
      setFrom rest

def showEnvironment : Running Unit := do
  for (name, value) in environment (← get) do print (name ++ "=" ++ value ++ "\n")

def withEnvironment : Tool :=
  withOptions
    { flags := ['i', '0', 'v'], valued := ['u', 'S', 'C'], leadingOnly := true,
      long := [("ignore-environment", 'i'), ("unset", 'u'), ("split-string", 'S')] } 125
    fun r name i => do
      let (operands, isEmpty) :=
        match i.operands with
        | "-" :: rest => (rest, true)
        | l => (l, i.has 'i')
      if isEmpty then modify fun p => { p with bindings := [] }
      for (c, value) in i.options do if c = 'u' then unassign value
      let split := (i.options.filter (·.1 == 'S')).flatMap fun o =>
        ((splitAtSeparator ' ' o.2.toList).filter fun cs => !cs.isEmpty).map String.ofList
      match ← setFrom (split ++ operands) with
      | [] =>
        showEnvironment
        return 0
      | arguments => startAs r name quotedPath arguments

def showVariable : Tool :=
  withOptions { flags := ['0'] } 2 fun _ _ i => do
    if i.operands.isEmpty then
      showEnvironment
      return 0
    else
      forEach (fun name => do
        match (environment (← get)).lookup name with
        | some value =>
          print (value ++ "\n")
          return 0
        | none => return 1) i.operands

/-- Runs a program at another priority, which makes no difference here. -/
def runNicely : Tool :=
  withOptions { valued := ['n'], leadingOnly := true, long := [("adjustment", 'n')] } 125
    fun r name i => do
      if i.operands.isEmpty then
        print "0\n"
        return 0
      else startAs r name quotedPath i.operands

/-- The words about a program that could not be started. -/
def failedToRun (program : String) : String := "failed to run command " ++ quotedPath program

def runDetached : Tool :=
  withOptions { leadingOnly := true } 125 fun r name i => do
    if i.operands.isEmpty then misuse name "missing operand" 125
    else startAs r name failedToRun i.operands

/-- Whether a text is a size in bytes, or names the mode in which lines are passed on. -/
def isBuffering (text : String) : Bool := text = "L" || (Numeral.count? text).isSome

/-- Runs a program with other buffers, which make no difference here. -/
def runBuffered : Tool :=
  withOptions
    { valued := ['i', 'o', 'e'], leadingOnly := true,
      long := [("input", 'i'), ("output", 'o'), ("error", 'e')] } 125 fun r name i => do
    match i.options.find? fun o => !isBuffering o.2, i.operands with
    | some (_, text), _ =>
      let _ ← complain name ("invalid mode " ++ quotedText text)
      return 125
    | none, [] => misuse name "missing operand" 125
    | none, program =>
      if i.options.contains ('i', "L") then
        misuse name "line buffering stdin is meaningless" 125
      else if i.options.isEmpty then
        misuse name "you must specify a buffering mode option" 125
      else startAs r name failedToRun program

def placesOfPrograms : Tool := fun _ _ arguments =>
  forEach (fun name => do
    match ← Program.find name with
    | .ok place =>
      print (place ++ "\n")
      return 0
    | .error _ => return 1) (arguments.filter (· ≠ "-a"))

/-- How much is printed by a tool that would go on for ever. -/
def endlessSize : Nat := 131072

/-- Prints a line again and again. Whatever reads it has enough of it at some time. -/
def repeatLine : Tool :=
  withOptions { leadingOnly := true } 1 fun _ _ i => do
    let line := if i.operands.isEmpty then "y" else " ".intercalate i.operands
    print (String.join (List.replicate (endlessSize / (line.length + 1) + 1) (line ++ "\n")))
    return 0

/-- A time is a number, which may have a point and a letter for its unit. -/
def isTime (text : String) : Bool :=
  let cs := text.toList
  let cs := if cs.getLast?.any ['s', 'm', 'h', 'd'].contains then cs.dropLast else cs
  let whole := cs.takeWhile Char.isDigit
  match cs.drop whole.length with
  | [] => !whole.isEmpty
  | '.' :: rest => rest.all Char.isDigit && !(whole.isEmpty && rest.isEmpty)
  | _ => false

def timeOf (text : String) : Nat :=
  let cs := text.toList
  let whole := cs.takeWhile Char.isDigit
  let fraction := ((cs.drop (whole.length + 1)).takeWhile Char.isDigit).take 9
  let unit :=
    match cs.getLast? with
    | some 'm' => 60
    | some 'h' => 3600
    | some 'd' => 86400
    | _ => 1
  let billionths := fraction ++ List.replicate (9 - fraction.length) '0'
  (Numeral.ofDigits 10 whole * 1000000000 + Numeral.ofDigits 10 billionths) * unit

def letPass (nanoseconds : Nat) : Running Unit := do
  let d ← disk
  setDisk { d with clock := d.clock + (nanoseconds : Int) }

/-- Waits, for which only the clock goes on. -/
def pause : Tool :=
  withOptions {} 1 fun _ name i => do
    match i.operands.find? fun t => !isTime t with
    | some t => misuse name ("invalid time interval " ++ quotedText t) 1
    | none =>
      if i.operands.isEmpty then misuse name "missing operand" 1
      else
        letPass ((i.operands.map timeOf).foldl (· + ·) 0)
        return 0

/-- Ends a program that took longer than it might, with a signal. -/
def endLate (name : String) (i : Invocation) (signal : Nat) (program : List String) :
    Running Nat := do
  if i.has 'v' then
    let _ ← complain name ("sending signal " ++ Signal.trapName signal ++ " to command " ++
      quotedText (program.headD ""))
  if signal = 9 then throw (.killed 9)
  else return if i.has 'π' then 128 + signal else 124

/-- Runs a program for a time at most. What it does before it waits too long is done. -/
def runForTime : Tool :=
  withOptions
    { flags := ['v', 'π', 'φ'], valued := ['k', 's'], leadingOnly := true,
      long := [("foreground", 'φ'), ("kill-after", 'k'), ("preserve-status", 'π'), ("signal", 's'),
        ("verbose", 'v')] } 125
    fun r name i => do
      match i.operands with
      | time :: program =>
        match Signal.number? ((i.value? 's').getD "TERM") with
        | none => misuse name (quotedText ((i.value? 's').getD "") ++ ": invalid signal") 125
        | some signal =>
          if program.isEmpty then
            printError (tryHelp name)
            return 125
          else if !isTime time then
            misuse name ("invalid time interval " ++ quotedText time) 125
          else
            let start := (← disk).clock
            let status ← startAs r name failedToRun program
            let length := timeOf time
            let d ← disk
            if 0 < length ∧ start + (length : Int) < d.clock then
              setDisk { d with clock := start + (length : Int) }
              endLate name i signal program
            else return status
      | [] =>
        printError (tryHelp name)
        return 125

def always (status : Nat) : Tool := fun _ _ _ => return status

end WasmBundle.Shell.Tool
