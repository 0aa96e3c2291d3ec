import WasmBundle.Shell.Regex
import WasmBundle.Shell.Tool.Lines

/-!
# Showing inputs

Tools that print all of their input: as it is or in a form that can be seen, backwards, or to
several places at once.
-/

namespace WasmBundle.Shell.Tool

open Running

def lineNumber (n : Nat) : List Char := (Format.padded false ' ' 6 (toString n) ++ "\t").toList

def visible (c : Char) : List Char :=
  let n := c.toNat
  let low := fun (n : Nat) =>
    if n < 32 then ['^', Char.ofNat (n + 64)]
    else if n = 127 then ['^', '?']
    else [Char.ofNat n]
  if n < 128 then low n else 'M' :: '-' :: low (n - 128)

def shownChar (i : Invocation) (c : Char) : List Char :=
  if c = '\t' then if i.has 'T' then ['^', 'I'] else [c]
  else if i.has 'v' then visible c
  else [c]

def shownLine (i : Invocation) (line : List Char) : List Char :=
  let isClosed := line.getLast? = some '\n'
  let inner := withoutEnd line
  let hasReturn := isClosed && i.has 'E' && inner.getLast? == some '\r'
  let text := (if hasReturn then inner.dropLast else inner).flatMap (shownChar i) ++
    if hasReturn then visible '\r' else []
  if isClosed then text ++ (if i.has 'E' then ['$', '\n'] else ['\n']) else text

/-- Lines as they are shown, numbered on from a number. -/
def shownLines (i : Invocation) (afterEmpty : Bool) : Nat → List (List Char) → List (List Char)
  | _, [] => []
  | n, line :: rest =>
    let isEmpty := line == ['\n']
    if i.has 's' ∧ isEmpty ∧ afterEmpty then shownLines i true n rest
    else
      let counts := if i.has 'b' then !isEmpty else i.has 'n'
      let number := if counts then lineNumber n else []
      (number ++ shownLine i line) :: shownLines i isEmpty (if counts then n + 1 else n) rest

def concatenate : Tool :=
  withOptions
    { flags := ['A', 'b', 'e', 'E', 'n', 's', 't', 'T', 'u', 'v'],
      long := [("show-all", 'A'), ("number-nonblank", 'b'), ("show-ends", 'E'), ("number", 'n'),
        ("squeeze-blank", 's'), ("show-tabs", 'T'), ("show-nonprinting", 'v')] } 1
    fun _ name i => do
      if (streamOf? (← get) 1).isNone then
        return ← complain name ("standard output: " ++ IoError.badDescriptor.reason)
      let i := widened [('A', ['v', 'E', 'T']), ('e', ['v', 'E']), ('t', ['v', 'T'])] i
      let refuse := fun (o : String) => complain name (shownPath o ++ ": input file is output file")
      if ['b', 'E', 'n', 's', 'T', 'v'].any i.has then
        let refused ← (inputs i.operands).filterM feedsItself
        let status ← forEach refuse refused
        match (inputs i.operands).filter fun o => !refused.contains o with
        | [] => return status
        | operands =>
          let shown := fun b => (shownLines i false 1 (closedLines (chars b))).flatten
          return max status (← filter (fun b => octets (String.ofList (shown b))) name operands)
      else
        let status ← forEach (fun o => do
          if ← feedsItself o then refuse o
          else forInputs name [o] fun _ b => printBytes b) (inputs i.operands)
        let isClosed := (streamOf? (← get) 0).isNone
        if isClosed ∧ (inputs i.operands).contains "-" then
          complain name ("closing standard input: " ++ IoError.badDescriptor.reason)
        else return status

/-- The places of separators before a place, the last one first, of which none reaches into another.
`ending?` says where a separator ends that starts at a place and ends before another one. -/
def placesBack (ending? : Nat → Nat → Option Nat) : Nat → Nat → List (Nat × Nat)
  | 0, _ => []
  | start + 1, bound =>
    match ending? start bound with
    | some finish => (start, finish) :: placesBack ending? start start
    | none => placesBack ending? start bound

/-- Where a text ends that stands at a place. -/
def literalEnd? (text : Array Char) (separator : List Char) (start bound : Nat) : Option Nat :=
  let finish := start + separator.length
  if finish ≤ bound ∧ (text.extract start finish).toList = separator then some finish else none

/-- Where the longest match of an expression ends that starts at a place. -/
def matchEnd? (text : Array Char) (r : Regex) (start bound : Nat) : Option Nat :=
  let s : Regex.Subject := { text := text.extract 0 bound, hasLines := true }
  (Regex.longest (Regex.matchesFrom s r { place := start })).map (·.place)

/-- The parts of a text up to a place, the last one first. Separators start the parts, or else end
them. -/
def partsBack (text : Array Char) (starts : Bool) : Bool → Nat → List (Nat × Nat) → List (List Char)
  | _, past, [] => [(text.extract 0 past).toList]
  | isFirst, past, (start, finish) :: rest =>
    let cut := if starts then start else finish
    let isNothing := !starts && isFirst && finish == past
    (if isNothing then [] else [(text.extract cut past).toList]) ++
      partsBack text starts false cut rest

def reversedParts (starts : Bool) (ending? : Nat → Nat → Option Nat) (text : Array Char) :
    List Char :=
  (partsBack text starts true text.size (placesBack ending? text.size text.size)).flatten

def reverseLines : Tool :=
  withOptions
    { flags := ['b', 'r'], valued := ['s'],
      long := [("before", 'b'), ("regex", 'r'), ("separator", 's')] } 1 fun _ name i => do
    let separator := ((i.value? 's').getD "\n").toList
    if separator.isEmpty ∧ i.has 'r' then complain name "separator cannot be empty"
    else
      match if i.has 'r' then Regex.ofText? .plain separator else .ok .empty with
      | .error f => complain name f.message
      | .ok r =>
        let separator := if separator.isEmpty then [Char.ofNat 0] else separator
        forEach (fun o => do
          match ← contentOf o with
          | .ok b =>
            let text := (chars b).toArray
            let ending? := if i.has 'r' then matchEnd? text r else literalEnd? text separator
            printChars (reversedParts (i.has 'b') ending? text)
            return 0
          | .error .isDirectory => complain name (shownPath o ++ ": read error: Invalid argument")
          | .error e =>
            complain name ("failed to open " ++ quotedPath o ++ " for reading: " ++ e.reason))
          (inputs i.operands)

def reverseChars : Tool :=
  withOptions { flags := ['0'], long := [("zero", '0')] } 1 fun _ name i =>
    let sign := if i.has '0' then Char.ofNat 0 else '\n'
    forEach (fun o => do
      match ← contentOf o with
      | .ok b =>
        printChars ((closedRecords sign (chars b)).flatMap fun line =>
          if line.getLast? = some sign then line.dropLast.reverse ++ [sign] else line.reverse)
        return 0
      | .error e => complain name ("cannot open " ++ o ++ ": " ++ e.reason)) (inputs i.operands)

/-- Opens a file to be written; the number of its stream. -/
def openOutput (appends : Bool) (path : String) : Running (Except IoError Nat) := do
  let mode : OpenMode := if appends then .append else .overwrite
  match Channels.deviceDescriptor? path with
  | some descriptor =>
    match ← Channels.openDevice mode descriptor with
    | some i => return .ok i
    | none => return .error .noEntry
  | none =>
    match ← Channels.openFile mode path with
    | .ok s => return .ok (← addStream s)
    | .error e => return .error e

def copyToFiles : Tool :=
  withOptions
    { flags := ['a', 'i', 'p'], optional := ['ω'],
      long := [("append", 'a'), ("ignore-interrupts", 'i'), ("output-error", 'ω')] } 1
    fun _ name i => do
    let modes := ["warn", "warn-nopipe", "exit", "exit-nopipe"].map fun m => ([m], ())
    let mode := (i.value? 'ω').getD ""
    match if mode.isEmpty then .ok () else choice? "--output-error" modes mode with
    | .error text => misuse name text 1
    | .ok () =>
      let opened ← i.operands.mapM fun path => do return (path, ← openOutput (i.has 'a') path)
      let opening ← forEach (fun (f : String × Except IoError Nat) => do
        match f.2 with
        | .ok _ => return 0
        | .error e => complain name (shownPath f.1 ++ ": " ++ e.reason)) opened
      let (b, reading) ←
        match ← readAll 0 with
        | .ok b => pure (b, 0)
        | .error e => pure ([], ← complain name ("read error: " ++ e.reason))
      let showing ← do
        if b.isEmpty then pure 0
        else
          match ← write 1 b with
          | .ok () => pure 0
          | .error e => complain name (quotedPath "standard output" ++ ": " ++ e.reason)
      let writing ← forEach (fun (f : String × Except IoError Nat) => do
        match f.2 with
        | .error _ => return 0
        | .ok n =>
          match (← get).streams[n]? with
          | none => return 0
          | some s =>
            match ← writeStream n s b with
            | .ok () => return 0
            | .error e => complain name (shownPath f.1 ++ ": " ++ e.reason)) opened
      let closing ← do
        if (streamOf? (← get) 0).isNone then
          complain name ("standard input: " ++ IoError.badDescriptor.reason)
        else pure 0
      return [opening, reading, showing, writing, closing].foldl max 0

end WasmBundle.Shell.Tool
