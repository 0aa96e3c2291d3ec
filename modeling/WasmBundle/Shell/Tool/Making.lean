import WasmBundle.Shell.DateReading
import WasmBundle.Shell.Format
import WasmBundle.Shell.Mode
import WasmBundle.Shell.Tool.Operand
import WasmBundle.Shell.Tool.Size

/-!
# Making files and directories

Tools that make directories and empty files, and change the size, the time or the mode of files.
-/

namespace WasmBundle.Shell.Tool

open Running

def pathsAlong (path : String) : List String :=
  let rec go (before : List Char) : List (List Char) → List String
    | [] => []
    | part :: rest =>
      let here := before ++ part
      let others := go (here ++ ['/']) rest
      if part.isEmpty then others else String.ofList here :: others
  go [] (splitAtSeparator '/' path.toList)

def makeAt (name : String) (i : Invocation) (mode : Nat) (path : String) : Running Nat := do
  match ← placeOf path with
  | .error e => complain name ("cannot create directory " ++ quotedText path ++ ": " ++ e.reason)
  | .ok l =>
    if ((← disk).lookup? l).isSome then
      complain name ("cannot create directory " ++ quotedText path ++ ": " ++
        IoError.alreadyExists.reason)
    else
      setDisk ((← disk).createDirectory mode l)
      if i.has 'v' then print (name ++ ": created directory " ++ quotedText path ++ "\n")
      return 0

def makeAlong (name : String) (i : Invocation) (mode : Nat) : List String → Running Nat
  | [] => return 0
  | path :: rest => do
    if ← isDirectory path then makeAlong name i mode rest
    else
      let usual := unmasked (← get) 0o777
      match ← found path with
      | .ok _ =>
        let e := if rest.isEmpty then IoError.alreadyExists else .notDirectory
        complain name ("cannot create directory " ++ quotedText path ++ ": " ++ e.reason)
      | .error _ =>
        match ← makeAt name i (if rest.isEmpty then mode else usual ||| 0o300) path with
        | 0 => makeAlong name i mode rest
        | status => return status

def makeDirectory : Tool :=
  withOptions
    { flags := ['p', 'v'], valued := ['m'], optional := ['Z']
      long := [("parents", 'p'), ("verbose", 'v'), ("mode", 'm')] } 1
    fun _ name i => do
      let usual := unmasked (← get) 0o777
      let setting : Mode.Setting := { mask := (← get).mask, isDirectory := true }
      match (i.value? 'm').map fun text => Mode.after? setting text 0o777, i.operands with
      | _, [] => misuse name "missing operand" 1
      | some none, _ => complain name ("invalid mode " ++ quotedText ((i.value? 'm').getD ""))
      | mode?, operands =>
        let mode := mode?.join.getD usual
        forEach (fun path =>
          if i.has 'p' ∧ path ≠ "" then makeAlong name i mode (pathsAlong path)
          else makeAt name i mode path) operands

/-- The time that options name, if they do: that of a file, a date, or one in digits. -/
def namedTime (name : String) (i : Invocation) : Running (Except Nat (Option Int)) := do
  let now := (← disk).clock
  match i.value? 'r', i.value? 'd', i.value? 't' with
  | some path, none, _ =>
    match ← found path with
    | .ok (.file _ f) => return .ok (some f.attributes.time)
    | .ok .directory =>
      match ← entryBehind path with
      | .ok (_, .directory a) => return .ok (some a.time)
      | _ => return .ok none
    | .error e =>
      return .error (← complain name
        ("failed to get attributes of " ++ quotedPath path ++ ": " ++ e.reason))
  | _, some text, _ =>
    match Calendar.parse? now text with
    | some time => return .ok (some time)
    | none => return .error (← complain name ("invalid date format " ++ quotedText text))
  | _, _, some text =>
    match Calendar.ofDigits? (Int.fdiv now Calendar.billion) text with
    | some s => return .ok (some (s * Calendar.billion))
    | none => return .error (← complain name ("invalid date format " ++ quotedText text))
  | none, none, none => return .ok none

/-- Sets the time of what a path leads to, which is made if need be. -/
def touchAt (name : String) (i : Invocation) (time : Option Int) (path : String) : Running Nat := do
  let set := fun (l : Location) => do
    let now := (← disk).clock
    if !i.has 'a' ∨ i.has 'm' then
      setDisk ((← disk).editAttributes l fun a => { a with time := time.getD now })
    return 0
  if path = "-" then return 0
  else
    match ← locationOf path with
    | .ok l => set l
    | .error e =>
      if i.has 'h' then return 0
      else if i.has 'c' then
        if e matches .noEntry then return 0
        else complain name ("cannot touch " ++ quotedPath path ++ ": " ++ e.reason)
      else
        match ← writeFile (pathOf path) [] with
        | .ok () =>
          match ← locationOf path with
          | .ok l => set l
          | .error _ => return 0
        | .error .isDirectory =>
          complain name ("setting times of " ++ quotedPath path ++ ": " ++ IoError.noEntry.reason)
        | .error e => complain name ("cannot touch " ++ quotedPath path ++ ": " ++ e.reason)

def touch : Tool :=
  withOptions
    { flags := ['c', 'a', 'm', 'f', 'h'], valued := ['d', 't', 'r', 'T']
      long := [("no-create", 'c'), ("date", 'd'), ("reference", 'r'), ("no-dereference", 'h'),
        ("time", 'T')] } 1
    fun _ name i => do
      if i.operands.isEmpty then misuse name "missing file operand" 1
      else
        match ← namedTime name i with
        | .error status => return status
        | .ok time => forEach (touchAt name i time) i.operands

/-- Bytes brought to a size: cut off, or filled up with zeros. -/
def sized (size : Nat) (b : Bytes) : Bytes :=
  b.take size ++ List.replicate (size - b.length) 0

/-- A size that another one is brought to, by a sign: more, less, at most, at least, or down or up
to a multiple. -/
def resized (sign : Option Char) (n before : Nat) : Nat :=
  match sign with
  | none => n
  | some '+' => before + n
  | some '-' => before - n
  | some '<' => min before n
  | some '>' => max before n
  | some '/' => before / n * n
  | some _ => (before + n - 1) / n * n

def truncate : Tool :=
  withOptions
    { flags := ['c', 'o'], valued := ['s', 'r'],
      long := [("size", 's'), ("no-create", 'c'), ("reference", 'r'), ("io-blocks", 'o')] } 1
    fun _ name i => do
      let text := (i.value? 's').getD ""
      let (sign, count) :=
        match text.toList.dropWhile isSpace with
        | c :: rest =>
          if ['+', '-', '<', '>', '/', '%'].contains c then (some c, String.ofList rest)
          else (none, text)
        | [] => (none, text)
      if !i.has 's' ∧ !i.has 'r' then
        misuse name ("you must specify either " ++ quoted "--size" ++ " or " ++
          quoted "--reference") 1
      else if i.has 's' ∧ i.has 'r' ∧ sign.isNone then
        misuse name ("you must specify a relative " ++ quoted "--size" ++ " with " ++
          quoted "--reference") 1
      else if i.operands.isEmpty then misuse name "missing file operand" 1
      else
        match if i.has 's' then Size.parse? false count else some 0 with
        | none => complain name ("Invalid number: " ++ quotedText text)
        | some n =>
          if n = 0 ∧ (sign = some '/' ∨ sign = some '%') then
            return ← complain name "division by zero"
          let reference ←
            match i.value? 'r' with
            | none => pure (.ok none)
            | some path =>
              match ← onDisk (OnDisk.read (pathOf path)) with
              | .ok b => pure (Except.ok (some b.length))
              | .error e =>
                pure (.error (← complain name ("cannot stat " ++ quotedPath path ++ ": " ++
                  e.reason)))
          match reference with
          | .error status => return status
          | .ok size? =>
            forEach (fun path => do
              let before ← onDisk (OnDisk.read (pathOf path))
              let b :=
                match before with
                | .ok x => x
                | .error _ => []
              let start := size?.getD b.length
              let size := if i.has 's' then resized sign n start else start
              if i.has 'c' ∧ before matches .error .noEntry then return 0
              else
                match ← writeFile (pathOf path) (sized size b) with
                | .ok () => return 0
                | .error e =>
                  complain name ("cannot open " ++ quotedPath path ++ " for writing: " ++ e.reason))
              i.operands

def temporaryDirectory : Running String := do
  match value? (← get) "TMPDIR" with
  | some dir => return if dir.isEmpty then "/tmp" else dir
  | none => return "/tmp"

/-- Makes a new file, or a directory, and prints its path. -/
def makeTemporary : Tool :=
  withOptions
    { flags := ['d', 'q', 'u', 't'], valued := ['p', 'S'], optional := ['D'],
      long := [("directory", 'd'), ("quiet", 'q'), ("dry-run", 'u'), ("tmpdir", 'D'),
        ("suffix", 'S')] } 1
    fun _ name i => do
      let refuse := fun (text : String) => do
        if i.has 'q' then return 1 else complain name text
      let usualDir ← temporaryDirectory
      let isNamed := i.has 'p' || i.has 'D'
      let inTemporary := i.operands.isEmpty || i.has 't' || isNamed
      let pattern := i.operands.headD "tmp.XXXXXXXXXX"
      let told := ((i.value? 'p').or (i.value? 'D')).getD ""
      let dir := if told.isEmpty then usualDir else told
      let isMark := fun (c : Char) => c = 'X'
      let reversed := pattern.toList.reverse
      let ending := if i.has 'S' then [] else reversed.takeWhile fun c => !isMark c
      let marks := ((reversed.drop ending.length).takeWhile isMark).length
      let suffix := String.ofList ending.reverse ++ (i.value? 'S').getD ""
      let start := pattern.toList.take (pattern.length - ending.length - marks)
      if i.operands.length > 1 then misuse name "too many templates" 1
      else if i.has 'S' ∧ reversed.head?.any (fun c => !isMark c) then
        refuse ("with --suffix, template " ++ quotedPath pattern ++ " must end in X")
      else if suffix.toList.contains '/' ∧ marks ≥ 3 then
        refuse ("invalid suffix " ++ quotedPath suffix ++ ", contains directory separator")
      else if marks < 3 then
        refuse ("too few X" ++ String.ofList [apostrophe] ++ "s in template " ++ quotedPath pattern)
      else if i.has 't' ∧ start.contains '/' then
        refuse ("invalid template, " ++ quotedPath pattern ++ ", contains directory separator")
      else
        let place := fun (n : Nat) =>
          let file := String.ofList start ++ Format.padded false '0' marks (toString n) ++ suffix
          if inTemporary then inDirectory dir file else file
        let d ← disk
        let free := (List.range 1000).find? fun n => d.findEntry (pathOf (place n)) matches .error _
        let path := place (free.getD 0)
        let kind := if i.has 'd' then "directory" else "file"
        match ← placeOf path with
        | .error e =>
          let shown := if inTemporary then inDirectory dir pattern else pattern
          refuse ("failed to create " ++ kind ++ " via template " ++ quotedPath shown ++ ": " ++
            e.reason)
        | .ok l =>
          if i.has 'u' then pure ()
          else if i.has 'd' then setDisk (d.createDirectory 0o700 l)
          else setDisk (d.create 0o600 l)
          print (path ++ "\n")
          return 0

def modeStarts : List Char :=
  ['r', 'w', 'x', 'X', 's', 't', 'u', 'g', 'o', 'a', ',', '+', '=', '0', '1', '2', '3', '4', '5',
    '6', '7']

def modeText (mode : Nat) : String := Mode.octal 4 mode ++ " (" ++ Mode.shown mode ++ ")"

/-- Changes the mode of what a path leads to, and of all below it where that is wanted. -/
def changeModeTo (name : String) (i : Invocation) (change : Mode.Setting → Nat → Option Nat) :
    Nat → Bool → String → Running Nat
  | 0, _, _ => return 1
  | depth + 1, isTop, path => do
    let isLink := (← entryOf path) matches .ok (_, .link _)
    match ← entryBehind path with
    | .error e =>
      if isLink ∧ !isTop then return 0
      else
        if !i.has 'f' then
          let _ ← complain name (if isLink then "cannot operate on dangling symlink " ++
            quotedPath path else "cannot access " ++ quotedPath path ++ ": " ++ e.reason)
        if i.has 'v' then print (quotedPath path ++ " could not be accessed\n")
        return 1
    | .ok (l, e) =>
      if isLink ∧ !isTop then return 0
      let isDir := e matches .directory _
      let before ← modeOf e
      let mask := (← get).mask
      let setting : Mode.Setting := { mask := mask, isDirectory := isDir }
      let after := (change setting before).getD before
      setDisk ((← disk).editAttributes l fun a => { a with mode := after })
      if after ≠ before ∧ (i.has 'v' ∨ i.has 'c') then
        print ("mode of " ++ quotedPath path ++ " changed from " ++ modeText before ++ " to " ++
          modeText after ++ "\n")
      else if i.has 'v' then
        print ("mode of " ++ quotedPath path ++ " retained as " ++ modeText before ++ "\n")
      let naive := (change { setting with mask := 0 } before).getD before
      let status ←
        if i.has '-' ∧ Mode.less after naive ≠ 0 then
          complain name (shownPath path ++ ": new permissions are " ++ Mode.shown after ++
            ", not " ++ Mode.shown naive)
        else pure 0
      if i.has 'R' ∧ isDir then
        let others ← forEach (fun n => changeModeTo name i change depth false (inDirectory path n))
          (← namesWithin path)
        return max status others
      else return status

/-- Modes that begin with a dash are no options; the letter `-` stands for one. -/
def changeMode : Tool := fun _ name arguments => do
  let isMode := fun (a : String) =>
    match a.toList with
    | '-' :: c :: _ => modeStarts.contains c
    | _ => false
  let ahead := arguments.takeWhile (· ≠ "--")
  let behind := arguments.drop ahead.length
  let table : OptionTable :=
    { flags := ['R', 'f', 'v', 'c'], valued := ['='],
      long := [("recursive", 'R'), ("silent", 'f'), ("quiet", 'f'), ("verbose", 'v'),
        ("changes", 'c'), ("reference", '=')] }
  match Invocation.read table (ahead.filter (fun a => !isMode a) ++ behind) with
  | .error e => misuse name e.message 1
  | .ok i =>
    let dashed := ahead.filter isMode
    let i := if dashed.isEmpty then i else i.withOption '-' ""
    let operands := dashed ++ i.operands
    match i.value? '=' with
    | some path =>
      match ← entryBehind path with
      | .ok (_, e) =>
        let mode ← modeOf e
        forEach (changeModeTo name i (fun _ _ => some mode) depthLimit true) operands
      | .error e =>
        complain name ("failed to get attributes of " ++ quotedPath path ++ ": " ++ e.reason)
    | none =>
      match operands with
      | [] => misuse name "missing operand" 1
      | [a] => misuse name ("missing operand after " ++ quotedText a) 1
      | mode :: paths =>
        let texts := if dashed.length > 1 then ",".intercalate dashed else mode
        if (Mode.after? {} texts 0).isNone then
          misuse name ("invalid mode: " ++ quotedText texts) 1
        else
          forEach (changeModeTo name i (fun s m => Mode.after? s texts m) depthLimit true)
            (if dashed.length > 1 then i.operands else paths)

end WasmBundle.Shell.Tool
