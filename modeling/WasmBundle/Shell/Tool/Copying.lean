import WasmBundle.Shell.Tool.Backup
import WasmBundle.Shell.Tool.Removal

/-!
# Copying, moving and linking

Tools that give something a second place, a new place or a second name. What is told where to go by
a directory goes into it under its own name.
-/

namespace WasmBundle.Shell.Tool

open Running

def isSameEntry (a b : Location × Entry) : Bool :=
  match a.2, b.2 with
  | .file n, .file m => n == m
  | _, _ => a.1 == b.1

def leadToSame (a b : String) : Running Bool := do
  match ← entryBehind a, ← entryBehind b with
  | .ok x, .ok y => return isSameEntry x y
  | _, _ => return false

def sameFile (name source target : String) : Running Nat :=
  complain name (quotedPath source ++ " and " ++ quotedPath target ++ " are the same file")

/-- Works on each source and its place in a directory; two sources of one name clash. -/
def intoDirectory (name dir : String) (i : Invocation) (work : String → String → Running Nat) :
    List String → List String → Running Nat
  | _, [] => return 0
  | done, source :: rest => do
    let shown := if i.has 'A' then withoutMarks source else baseName source
    let target := inDirectory dir (if shown = ".." then "" else shown)
    let status ←
      if done.contains target ∧ !(← isDirectory target) then
        complain name ("will not overwrite just-created " ++ quotedPath target ++ " with " ++
          quotedPath source)
      else work source target
    let done := if status = 0 then target :: done else done
    return max status (← intoDirectory name dir i work done rest)

/-- Runs something for every source and its place at the target: in it, if it is a directory. -/
def toTarget (name : String) (i : Invocation) (followsTarget : Bool)
    (work : String → String → Running Nat) : Running Nat := do
  match i.value? 't' with
  | some dir =>
    if i.operands.isEmpty then misuse name "missing file operand" 1
    else if ← isDirectory dir then intoDirectory name dir i work [] i.operands
    else
      let reason :=
        match ← found dir with
        | .error e => e.reason
        | .ok _ => IoError.notDirectory.reason
      complain name ("target directory " ++ quotedPath dir ++ ": " ++ reason)
  | none =>
    match i.operands.reverse with
    | [] => misuse name "missing file operand" 1
    | [a] => misuse name ("missing destination file operand after " ++ quotedPath a) 1
    | target :: sources =>
      let isLink := (← entryOf target) matches .ok (_, .link _)
      if (← isDirectory target) && !i.has 'T' && (followsTarget || !isLink) then
        intoDirectory name target i work [] sources.reverse
      else
        match sources with
        | [s] =>
          if i.has 'A' then
            complain name ("with --parents, the destination must be a directory")
          else work s target
        | _ =>
          if i.has 'T' then
            misuse name ("extra operand " ++ quotedPath target) 1
          else
            let reason :=
              match ← found target with
              | .error e => e.reason
              | .ok _ => IoError.notDirectory.reason
            complain name ("target " ++ quotedPath target ++ ": " ++ reason)

def follows (i : Invocation) (isTop : Bool) : Bool :=
  match i.options.reverse.find? fun o => ['L', 'P', 'H'].contains o.1 with
  | some ('L', _) => true
  | some ('P', _) => false
  | some _ => isTop
  | none => !i.has 'r'

/-- Gives what is at a location the attributes of an entry, where a copy is to keep them. -/
def keepAttributes (i : Invocation) (e : Entry) (l : Location) : Running Unit := do
  if i.has 'p' then
    match ← attributesOf? e with
    | some a => setDisk ((← disk).editAttributes l fun _ => a)
    | none => return ()

def toldCopy (i : Invocation) (source target : String) (backup : Option String) :
    Running Unit := do
  if i.has 'v' then
    print (quotedPath source ++ " -> " ++ quotedPath target ++ Backup.told backup ++ "\n")

/-- What becomes of a target that is there already. -/
inductive Standing where
  | replaced
  | kept
  | refused (status : Nat)

def standing (name : String) (i : Invocation) (source target : String)
    (s t : Location × Entry) : Running Standing := do
  let isDir := s.2 matches .directory _
  let isOld ←
    if i.has 'u' ∧ !isDir then
      match ← attributesOf? s.2, ← attributesOf? t.2 with
      | some a, some b => pure (decide (a.time ≤ b.time))
      | _, _ => pure false
    else pure false
  if isOld then return .kept
  else if !isDir ∧ i.has 'n' then
    if i.has 'N' then return .kept
    else if name = "mv" then
      return .refused (← complain name ("not replacing " ++ quotedPath target))
    else return .kept
  else
    let isWanted ←
      if i.has 'i' ∧ !isDir then agrees (name ++ ": overwrite " ++ quotedPath target ++ "? ")
      else pure true
    if !isWanted then return .refused 1
    let control := Backup.control (← get) i
    let isMovedAway := name = "mv" && control.toOption.any (· != .off)
    if isMovedAway then return .replaced
    match isDir, t.2 with
    | true, .directory _ => return .replaced
    | true, _ =>
      return .refused (← complain name ("cannot overwrite non-directory " ++ quotedPath target ++
        " with directory " ++ quotedPath source))
    | false, .directory _ =>
      return .refused (← complain name ("cannot overwrite directory " ++ quotedPath target ++
        " with non-directory"))
    | false, _ => return .replaced

/-- Copies the content of a file to a path, where something may be. -/
def copyContent (name : String) (i : Invocation) (source target : String) (e : Entry) :
    Running Nat := do
  let refuse := fun (x : IoError) =>
    complain name ("cannot create regular file " ++ quotedPath target ++ ": " ++ x.reason)
  let mode ← modeOf e
  match ← contentOf source with
  | .error x => complain name ("error reading " ++ quotedPath source ++ ": " ++ x.reason)
  | .ok b =>
    match Channels.deviceDescriptor? target with
    | some n =>
      match ← write n b with
      | .ok () => return 0
      | .error x => complain name ("error writing " ++ quotedPath target ++ ": " ++ x.reason)
    | none =>
      let isDangling := (← entryOf target) matches .ok (_, .link _)
      match ← found target, ← targetOf target with
      | .error .noEntry, .ok l =>
        if isDangling then
          complain name ("not writing through dangling symlink " ++ quotedPath target)
        else if hasMark target then refuse .notDirectory
        else
          let d ← disk
          let number := d.files.length
          let tool :=
            match e with
            | .file n => d.files[n]?.bind (·.tool)
            | _ => none
          let made := (d.create (unmasked (← get) (mode &&& 0o777)) l).put number b
          setDisk (made.editFile number fun f => { f with tool := tool })
          keepAttributes i e l
          return 0
      | .ok (.file n f), .ok l =>
        if f.kind = .full ∧ !b.isEmpty then
          complain name ("error writing " ++ quotedPath target ++ ": " ++ IoError.noSpace.reason)
        else
          setDisk ((← disk).put n b)
          keepAttributes i e l
          return 0
      | .error x, _ => refuse x
      | _, .error x => refuse x
      | .ok .directory, _ => refuse .isDirectory

/-- Makes a link to a path, or a second name of an entry, where a copy is to be one. -/
def copyAsLink (name : String) (i : Invocation) (source target : String) (s : Location × Entry)
    (l : Location) : Running Nat := do
  if i.has 's' then
    let isHere := source.toList.head? = some '/' || directoryOf target = "."
    if !isHere then
      complain name (quotedPath target ++
        ": can make relative symbolic links only in current directory")
    else
      setDisk ((← disk).setEntry l (.link (pathOf source)))
      return 0
  else
    setDisk ((← disk).setEntry l s.2)
    return 0

/-- Copies what is at a path to another one, to a depth. A directory is not copied into the new one
that is made for it. -/
def copyTo (name : String) (i : Invocation) (made : Option Location) (top : String × String) :
    Nat → String → String → Running Nat
  | 0, _, _ => return 1
  | depth + 1, source, target => do
    let isTop := made.isNone
    match ← if follows i isTop then entryBehind source else entryOf source with
    | .error e => complain name ("cannot stat " ++ quotedPath source ++ ": " ++ e.reason)
    | .ok s =>
      let isDir := s.2 matches .directory _
      if isDir ∧ !i.has 'r' then
        return ← complain name ((if name = "cp" then "-r not specified; " else "") ++
          "omitting directory " ++ quotedPath source)
      if isDir ∧ made = some s.1 then
        return ← complain name ("cannot copy a directory, " ++ quotedPath top.1 ++
          ", into itself, " ++ quotedPath top.2)
      let isFile := s.2 matches .file _
      let itself := !isFile || i.has 's' || i.has 'l' || i.has 'D'
      let there ← if itself then entryOf target else entryBehind target
      let mut backup : Option String := none
      match there with
      | .error .noEntry => pure ()
      | .error e =>
        return ← complain name ("cannot stat " ++ quotedPath target ++ ": " ++ e.reason)
      | .ok t =>
        let isSame := if s.2 matches .link _ then s.1 == t.1 else isSameEntry s t
        if isSame then
          if i.has 'l' ∧ s.1 ≠ t.1 then return 0
          else return ← sameFile name source target
        match ← standing name i source target s t with
        | .kept => return 0
        | .refused status => return status
        | .replaced =>
          if !isDir then backup := ← Backup.keep i target
          if !isDir ∧ backup.isNone then
            if i.has 'D' then
              setDisk ((← disk).unlink t.1)
              if i.has 'v' then print ("removed " ++ quotedPath target ++ "\n")
            else if itself then
              if i.has 'f' ∨ (s.2 matches .link _) then setDisk ((← disk).unlink t.1)
              else
                return ← complain name ("cannot create " ++
                  (if i.has 's' then "symbolic" else "hard") ++ " link " ++ quotedPath target ++
                  (if i.has 's' then "" else " to " ++ quotedPath source) ++ ": " ++
                  IoError.alreadyExists.reason)
      match s.2 with
      | .file _ =>
        toldCopy i source target backup
        if i.has 's' ∨ i.has 'l' then
          match ← placeOf target with
          | .ok l => copyAsLink name i source target s l
          | .error e =>
            complain name ("cannot create " ++ (if i.has 's' then "symbolic" else "hard") ++
              " link " ++ quotedPath target ++ ": " ++ e.reason)
        else copyContent name i source target s.2
      | .link text =>
        toldCopy i source target backup
        match ← placeOf target with
        | .ok l =>
          setDisk ((← disk).setEntry l (.link text))
          return 0
        | .error e =>
          complain name ("cannot create symbolic link " ++ quotedPath target ++ ": " ++ e.reason)
      | .directory a =>
        match ← placeOf target with
        | .error e =>
          complain name ("cannot create directory " ++ quotedPath target ++ ": " ++ e.reason)
        | .ok l =>
          if ((← disk).lookup? l).isNone then
            toldCopy i source target none
            setDisk ((← disk).createDirectory (unmasked (← get) a.mode) l)
          let names ← namesWithin source
          let status ← forEach (fun n =>
            copyTo name i (some (made.getD l)) top depth (inDirectory source n)
              (inDirectory target n)) names
          keepAttributes i s.2 l
          return status

def copyOptions : OptionTable where
  flags := ['r', 'R', 'a', 'f', 'p', 'v', 'n', 'i', 'T', 'd', 'L', 'P', 'H', 'l', 's', 'x', 'A',
    'D', 'Z', 'u', 'b']
  valued := ['t', 'S']
  optional := [Backup.controlLetter, 'K', 'U', 'E']
  long := [("recursive", 'r'), ("archive", 'a'), ("force", 'f'), ("verbose", 'v'),
    ("no-clobber", 'n'), ("interactive", 'i'), ("update", 'U'), ("no-target-directory", 'T'),
    ("target-directory", 't'), ("dereference", 'L'), ("no-dereference", 'P'), ("link", 'l'),
    ("symbolic-link", 's'), ("parents", 'A'), ("remove-destination", 'D'), ("preserve", 'K'),
    ("no-preserve", 'E'), ("reflink", 'E'), ("sparse", 'E'), ("one-file-system", 'x'),
    ("strip-trailing-slashes", 'Z'), ("backup", Backup.controlLetter), ("suffix", 'S')]

/-- The options of copying, each spelled in one way. The last of `f`, `i` and `n` counts. -/
def copyInvocation (i : Invocation) : Invocation :=
  let i := widened [('a', ['r', 'P', 'p']), ('d', ['P']), ('K', ['p'])]
    (renamed [('R', 'r')] i)
  let wantsNew := fun (o : Char × String) =>
    o.1 == 'U' && (o.2.isEmpty || o.2 == "older")
  let keeps := fun (o : Char × String) => o.1 == 'U' && o.2 == "none"
  let i := { i with
    options := i.options ++ (if i.options.any wantsNew then [('u', "")] else []) ++
      (if i.options.any keeps then [('n', ""), ('N', "")] else []) }
  match (i.options.filter fun o => o.1 == 'i' || o.1 == 'n').getLast? with
  | some (c, _) =>
    { i with options := i.options.filter fun o => !(['i', 'n'].contains o.1) || o.1 == c }
  | none => i

def updateFault? (i : Invocation) : Option String :=
  match i.value? 'U' with
  | some text =>
    let known := ["all", "none", "older"].map fun (w : String) => ([w], ())
    if text.isEmpty then none
    else
      match choice? "--update" known text with
      | .ok _ => none
      | .error e => some e
  | none => none

def makeParents (dir : String) (path : String) : Running Unit := do
  match ← targetOf (inDirectory dir (directoryOf path)), ← locationOf dir with
  | .ok l, _ => setDisk ((← disk).addDirectories l)
  | .error _, .ok l =>
    let parts := (Disk.parts (pathOf (directoryOf path))).filter fun part => !Path.ignorable part
    setDisk ((← disk).addDirectories (l ++ parts))
  | _, _ => return ()

def copy : Tool :=
  withOptions copyOptions 1 fun _ name i => do
    for _ in i.options.filter (·.1 == 'n') do
      printError (name ++ ": warning: behavior of -n is non-portable and may change in future; " ++
        "use --update=none instead\n")
    if let some text := updateFault? i then return ← misuse name text 1
    if let .error text := Backup.control (← get) i then return ← misuse name text 1
    let i := copyInvocation i
    let dir := (i.value? 't').getD (i.operands.getLast?.getD "")
    toTarget name i true fun source target => do
      if i.has 'A' then makeParents dir (withoutMarks source)
      if source = target ∧ i.has 'f' then
        if let some backup ← Backup.nextPath? i target then
          let plain := { i with options := i.options.filter fun o =>
            !(['b', 'S', Backup.controlLetter].contains o.1) }
          return ← copyTo name plain none (source, backup) depthLimit source backup
      copyTo name i none (source, target) depthLimit source target

def moveTo (name : String) (i : Invocation) (source target : String) : Running Nat := do
  let cannot := fun (e : IoError) =>
    complain name ("cannot move " ++ quotedPath source ++ " to " ++ quotedPath target ++ ": " ++
      e.reason)
  match ← entryOf source with
  | .error e => complain name ("cannot stat " ++ quotedPath source ++ ": " ++ e.reason)
  | .ok s =>
    let isDir := s.2 matches .directory _
    match ← placeOf target, ← entryOf target with
    | .error e, _ => cannot e
    | _, .error .notDirectory => cannot .notDirectory
    | .ok l, there =>
      let t? := there.toOption
      let isLink := t?.any fun t => t.2 matches .link _
      let isSame ←
        match t? with
        | some t =>
          let isShared ← leadToSame source target
          pure (t.1 == s.1 || (!isLink && (isSameEntry s t || isShared)))
        | none => pure false
      if [".", ".."].contains (baseName source) then cannot .busy
      else if ← isMarkedLink source then cannot .notDirectory
      else if isDir ∧ s.1.isPrefixOf l then
        complain name ("cannot move " ++ quotedPath source ++ " to a subdirectory of itself, " ++
          quotedPath target)
      else if isSame then sameFile name source target
      else
        let mut backup : Option String := none
        match t? with
        | none =>
          if hasMark target ∧ !isDir then return ← cannot .notDirectory
        | some t =>
          match ← standing name i source target s t with
          | .kept => return 0
          | .refused status => return status
          | .replaced =>
            backup := ← Backup.keep i target
            let below ← namesWithin target
            if isDir ∧ !below.isEmpty then
              return ← complain name ("cannot overwrite " ++ quotedPath target ++ ": " ++
                IoError.notEmpty.reason)
        setDisk ((← disk).moveTree s.1 l)
        if i.has 'v' then
          print ("renamed " ++ quotedPath source ++ " -> " ++ quotedPath target ++
            Backup.told backup ++ "\n")
        return 0

def move : Tool :=
  withOptions copyOptions 1 fun _ name i => do
    if let some text := updateFault? i then return ← misuse name text 1
    if let .error text := Backup.control (← get) i then return ← misuse name text 1
    let i := copyInvocation i
    toTarget name i true fun source target => moveTo name i source target

/-- Gives something at a path a second name, or makes a link to it. -/
def linkTo (name : String) (i : Invocation) (source target : String) : Running Nat := do
  let isSymbolic := i.has 's'
  let kind := if isSymbolic then "symbolic" else "hard"
  let refuse := fun (e : IoError) => do
    let others :=
      if isSymbolic then if source.isEmpty then " -> " ++ quotedPath source else ""
      else if e = .alreadyExists then "" else " => " ++ quotedPath source
    complain name ("failed to create " ++ kind ++ " link " ++ quotedPath target ++ others ++ ": " ++
      e.reason)
  let origin ← if i.has 'L' then entryBehind source else entryOf source
  match isSymbolic, origin with
  | false, .error e => complain name ("failed to access " ++ quotedPath source ++ ": " ++ e.reason)
  | false, .ok (_, .directory _) =>
    complain name (source ++ ": hard link not allowed for directory")
  | _, _ =>
    match ← placeOf target with
    | .error e => refuse e
    | .ok l =>
      let there := (← disk).lookup? l
      if isSymbolic ∧ source.isEmpty then return ← refuse .noEntry
      let control := Backup.control (← get) i
      let keeps := control.toOption.any (· != .off)
      let mut backup : Option String := none
      match there with
      | some (.directory _) =>
        if i.has 'f' ∨ keeps then
          return ← complain name (quotedPath target ++ ": cannot overwrite directory")
        else return ← refuse .alreadyExists
      | some e =>
        if keeps then backup := ← Backup.keep i target
        else if i.has 'f' then
          let isSame :=
            match origin with
            | .ok (m, o) => m == l || (!isSymbolic && isSameEntry (m, o) (l, e))
            | .error _ => false
          if isSame then
            return ← sameFile name source target
        else if i.has 'i' then
          if !(← agrees (name ++ ": replace " ++ quotedPath target ++ "? ")) then return 0
        else return ← refuse .alreadyExists
      | none => if hasMark target then return ← refuse .noEntry
      let text ←
        if i.has 'r' then
          match ← targetOf source, ← placeOf (directoryOf target) with
          | .ok a, .ok b => pure (relativeText b a)
          | _, _ => pure source
        else pure source
      let entry := if isSymbolic then Entry.link (pathOf text) else
        (origin.toOption.map (·.2)).getD (.link "")
      setDisk ((← disk).setEntry l entry)
      if i.has 'v' then
        let before := (backup.map fun b => quotedPath b ++ " ~ ").getD ""
        print (before ++ quotedPath target ++ (if isSymbolic then " -> " else " => ") ++
          quotedPath text ++ "\n")
      return 0

/-- With one operand, the new name is that of the operand, here. -/
def link : Tool :=
  withOptions
    { flags := ['s', 'f', 'n', 'v', 'T', 'r', 'L', 'P', 'i', 'F', 'd', 'b']
      valued := ['t', 'S']
      optional := [Backup.controlLetter]
      long := [("backup", Backup.controlLetter), ("suffix", 'S'),
        ("symbolic", 's'), ("force", 'f'), ("no-dereference", 'n'), ("relative", 'r'),
        ("verbose", 'v'), ("target-directory", 't'), ("no-target-directory", 'T'),
        ("logical", 'L'), ("physical", 'P'), ("interactive", 'i')] } 1
    fun _ name i => do
      let i := match i.operands, i.value? 't' with
        | [a], none => { i with operands := [a, "."] }
        | _, _ => i
      if let .error text := Backup.control (← get) i then return ← misuse name text 1
      toTarget name i (!i.has 'n') fun source target => linkTo name i source target

def linkOnce : Tool :=
  withOptions {} 1 fun _ name i => do
    match i.operands with
    | [] => misuse name "missing operand" 1
    | [a] => misuse name ("missing operand after " ++ quotedText a) 1
    | [source, target] =>
      let refuse := fun (e : IoError) =>
        complain name ("cannot create link " ++ quotedPath target ++ " to " ++ quotedPath source ++
          ": " ++ e.reason)
      match ← entryOf source, ← placeOf target with
      | .error e, _ => refuse e
      | .ok (_, .directory _), _ => refuse .notPermitted
      | .ok _, .error e => refuse e
      | .ok (_, e), .ok l =>
        if ((← disk).lookup? l).isSome then refuse .alreadyExists
        else
          setDisk ((← disk).setEntry l e)
          return 0
    | _ :: _ :: extra :: _ => misuse name ("extra operand " ++ quotedText extra) 1

end WasmBundle.Shell.Tool
