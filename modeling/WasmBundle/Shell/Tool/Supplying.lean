import WasmBundle.Shell.Tool.Lines
import WasmBundle.Shell.Tool.Words

/-!
# Words of an input as arguments

The tool that takes words from its input and runs a program with them as further arguments, as
often as it takes to supply them all. An input is taken apart into words at blanks, with quotes that
protect them, line by line, or at a sign of its own.
-/

namespace WasmBundle.Shell.Supplying

open Running Tool

/-- What comes up when an input is taken apart. -/
inductive Item where
  | word (cs : List Char)
  /-- A line that had words is over. -/
  | lineEnd
  /-- A quote is never closed. -/
  | unclosed (sign : Char)
  deriving DecidableEq, Repr

/-- Where a reader of words stands. -/
inductive Place where
  | between
  | within
  | quoted (sign : Char)
  | escaped
  deriving DecidableEq, Repr

def isBlank (c : Char) : Bool := c = ' ' ∨ c = '\t'

def itemOf : Option (List Char) → List Item
  | none => []
  | some w => [.word w.reverse]

/-- Takes a text apart, from a place in a word that is begun, whose last character comes first. A
line ends where no blank stands before its end. Words may hold blanks if every line is one. -/
def items (wholeLines : Bool) : Place → Option (List Char) → Char → List Char → List Item
  | .quoted sign, _, _, [] => [.unclosed sign]
  | _, word, _, [] => itemOf word
  | .quoted sign, word, _, c :: rest =>
    if c = '\n' then [.unclosed sign]
    else if c = sign then items wholeLines .within word c rest
    else items wholeLines (.quoted sign) (some (c :: word.getD [])) c rest
  | .escaped, word, _, c :: rest =>
    items wholeLines .within (some (c :: word.getD [])) c rest
  | place, word, last, c :: rest =>
    if place = .between ∧ isSpaceChar c then items wholeLines .between none c rest
    else if c = '\n' then
      itemOf word ++ (if isBlank last then [] else [.lineEnd]) ++
        items wholeLines .between none c rest
    else if !wholeLines ∧ isBlank c then itemOf word ++ items wholeLines .between none c rest
    else if c = '\\' then items wholeLines .escaped word c rest
    else if c = '"' ∨ c = apostrophe then
      items wholeLines (.quoted c) (some (word.getD [])) c rest
    else items wholeLines .within (some (c :: word.getD [])) c rest

/-- The items of a text whose words stand between quotes and blanks. -/
def plainItems (wholeLines : Bool) (cs : List Char) : List Item :=
  items wholeLines .between none '\n' cs

/-- The items of a text whose words a sign ends; the last one may go without it. -/
def signedItems (sign : Char) (cs : List Char) : List Item :=
  match (splitAtSeparator sign cs).reverse with
  | [] => []
  | last :: others =>
    others.reverse.flatMap (fun w => [.word w, .lineEnd]) ++
      if last.isEmpty then [] else [.word last]

/-- The sign that an escape names, or what is wrong with it. -/
def sign? (text : String) : Except String Char :=
  let fault := fun (why : String) => "Invalid escape sequence " ++ text ++
    " in input delimiter specification" ++ why
  let numeral := fun (base : Nat) (digits : List Char) =>
    let (n, rest) := Numeral.leading base digits
    if 255 < n then
      Except.error (fault ("; character values must not exceed " ++
        if base = 16 then "ff." else "377."))
    else if rest.isEmpty then Except.ok (Char.ofNat n)
    else
      Except.error (fault ("; trailing characters " ++ String.ofList rest ++ " not recognised."))
  match text.toList with
  | [c] => .ok c
  | ['\\', 'a'] => .ok (Char.ofNat 7)
  | ['\\', 'b'] => .ok (Char.ofNat 8)
  | ['\\', 'f'] => .ok (Char.ofNat 12)
  | ['\\', 'n'] => .ok '\n'
  | ['\\', 'r'] => .ok '\r'
  | ['\\', 't'] => .ok '\t'
  | ['\\', 'v'] => .ok (Char.ofNat 11)
  | ['\\', '\\'] => .ok '\\'
  | '\\' :: 'x' :: digits => numeral 16 digits
  | '\\' :: c :: digits =>
    if c.isDigit then numeral 8 (c :: digits) else .error (fault ".")
  | _ => .error ("Invalid input delimiter specification " ++ text ++
      ": the delimiter must be either a single character or an escape sequence starting with \\.")

structure Order where
  /-- The program, with the arguments it always gets. -/
  program : List String := ["echo"]
  /-- The text in the arguments that a word takes the place of. -/
  mark : Option String := none
  wordsPerRun : Option Nat := none
  linesPerRun : Option Nat := none
  /-- The room for a program and its arguments, each with a sign for its end. -/
  room : Nat := 131072
  /-- Whether it is an error if the words for a run do not fit. -/
  isStrict : Bool := false
  /-- Whether the program runs once even if there are no words. -/
  runsWithout : Bool := true
  /-- Whether programs are shown before they run. -/
  isShown : Bool := false
  /-- Whether they run only if one agrees. -/
  isAsked : Bool := false
  /-- The word before which the input ends. -/
  stop : Option (List Char) := none
  /-- The sign that ends words. -/
  sign : Option Char := none
  /-- The file to take words from in place of the input. -/
  file : Option String := none

/-- Why an order is refused, and whether a hint at the help follows. -/
structure Refusal where
  text : String
  hints : Bool := false

def number? (letter : Char) (lowest : Int) (value : String) : Except Refusal Nat :=
  let title := String.ofList ['-', letter]
  match Numeral.prefixOf? false value with
  | some (n, []) =>
    if lowest ≤ n then .ok n.toNat
    else
      .error
        { text := "value " ++ toString n ++ " for " ++ title ++ " option should be >= " ++
            toString lowest
          hints := true }
  | _ => .error { text := "invalid number \"" ++ value ++ "\" for " ++ title ++ " option"
                  hints := true }

def clash (before after : String) : String :=
  "warning: options " ++ before ++ " and " ++ after ++ " are mutually exclusive, ignoring previous "
    ++ before ++ " value"

/-- The option of an order that words in turn take the place of a text. -/
def Order.withMark (x : Order) (mark : String) : Order × List String :=
  let title := "--replace/-I/-i"
  ({ x with mark := some mark, wordsPerRun := none, linesPerRun := none },
    (if x.wordsPerRun.isSome then [clash "--max-args" title] else []) ++
      if x.linesPerRun.isSome then [clash "--max-lines" title] else [])

def Order.withLines (x : Order) (title : String) (n : Nat) : Order × List String :=
  ({ x with linesPerRun := some n, wordsPerRun := none, mark := none },
    (if x.wordsPerRun.isSome then [clash "--max-args" title] else []) ++
      if x.mark.isSome then [clash "--replace" title] else [])

def Order.withWords (x : Order) (n : Nat) : Order × List String :=
  let title := "--max-args/-n"
  let told := if x.linesPerRun.isSome then [clash "--max-lines" title] else []
  if x.mark.isSome ∧ n = 1 then ({ x with linesPerRun := none }, told)
  else
    ({ x with wordsPerRun := some n, linesPerRun := none, mark := none },
      told ++ if x.mark.isSome then [clash "--replace" title] else [])

/-- An order with an option more, and the warnings about that. -/
def Order.withOption (x : Order) (o : Char × String) : Except Refusal (Order × List String) := do
  let orElse := fun (text : String) => if o.2.isEmpty then text else o.2
  match o.1 with
  | '0' => return ({ x with sign := some (Char.ofNat 0) }, [])
  | 'd' =>
    match sign? o.2 with
    | .ok c => return ({ x with sign := some c }, [])
    | .error text => throw { text }
  | 'I' => return x.withMark o.2
  | 'i' => return x.withMark (orElse "\x7b\x7d")
  | 'L' => return x.withLines "-L" (← number? 'L' 1 o.2)
  | 'l' => return x.withLines "--max-lines/-l" (← number? 'l' 1 (orElse "1"))
  | 'n' => return x.withWords (← number? 'n' 1 o.2)
  | 's' =>
    match number? 's' 1 o.2 with
    | .ok n => return ({ x with room := n }, [])
    | .error e =>
      if (Numeral.prefixOf? false o.2).any (·.2.isEmpty) then
        return ({ x with room := 1 }, [e.text])
      else throw e
  | 'P' => return (x, [(← number? 'P' 0 o.2)].filterMap fun _ => none)
  | 'E' => return ({ x with stop := some o.2.toList }, [])
  | 'e' => return ({ x with stop := if o.2.isEmpty then none else some o.2.toList }, [])
  | 'a' => return ({ x with file := some o.2 }, [])
  | 'r' => return ({ x with runsWithout := false }, [])
  | 'p' => return ({ x with isAsked := true }, [])
  | 't' => return ({ x with isShown := true }, [])
  | 'x' => return ({ x with isStrict := true }, [])
  | _ => return (x, [])

/-- Reads options into an order, with the warnings on the way. -/
def read (name : String) : Order → List (Char × String) → Running (Except Refusal Order)
  | x, [] => return .ok x
  | x, o :: rest => do
    match x.withOption o with
    | .error e => return .error e
    | .ok (y, warnings) =>
      for w in warnings do
        let _ ← complain name w
      read name y rest

structure Progress where
  /-- The words for the next run, the last one first. -/
  words : List String := []
  /-- Lines since the last run. -/
  lines : Nat := 0
  hasRun : Bool := false
  /-- A run that is begun but was not yet waited for. -/
  waiting : Option (List String) := none
  status : Nat := 0

/-- Work that may end early, with a status. -/
abbrev Work := ExceptT Nat (StateT Progress Running)

def perform {α : Type} (work : Running α) : Work α := ExceptT.lift (StateT.lift work)

inductive Outcome where
  | ended (status : Nat)
  | killed (signal : Nat)
  | notStarted (e : IoError)

/-- Starts a program with nothing to read, unless the words come from elsewhere. -/
def outcomeOf (r : Runner) (x : Order) (call : List String) : Running Outcome := do
  match ← Program.find (call.headD "") with
  | .error e => return .notStarted e
  | .ok place =>
    let before := (← get).descriptors
    if x.file.isNone then connect 0 (← addStream .null)
    let result ←
      tryCatch (do
          match ← r.start place call with
          | .ok status => return .ended status
          | .error e => return .notStarted e)
        fun
        | .killed signal => return .killed signal
        | e => throw e
    modify fun p => { p with descriptors := before }
    return result

def await (r : Runner) (x : Order) (name : String) : Work Unit := do
  let some call := (← get).waiting | return ()
  modify fun p => { p with waiting := none }
  let tell := fun (text : String) => do
    let _ ← perform (complain name (call.headD "" ++ ": " ++ text))
  match ← perform (outcomeOf r x call) with
  | .ended 0 => return ()
  | .ended 255 => do
    tell "exited with status 255; aborting"
    throw 124
  | .ended _ => modify fun p => { p with status := 123 }
  | .killed signal => do
    tell ("terminated by signal " ++ toString signal)
    throw 125
  | .notStarted e => do
    tell e.reason
    throw (if e matches .noEntry then 127 else 126)

def giveUp {α : Type} (r : Runner) (x : Order) (name text : String) : Work α := do
  let _ ← perform (complain name text)
  await r x name
  throw 1

def spelled (w : String) : String :=
  if isUnclear w.toList then quotedPath w else w

def begin (r : Runner) (x : Order) (name : String) (call : List String) : Work Unit := do
  await r x name
  let shown := " ".intercalate (call.map spelled)
  if x.isAsked then
    perform (printError shown)
    giveUp r x name "failed to open /dev/tty for reading: No such device or address"
  else
    if x.isShown then perform (printError (shown ++ "\n"))
    modify fun p => { p with waiting := some call, hasRun := true }

def beginWithWords (r : Runner) (x : Order) (name : String) : Work Unit := do
  let words := (← get).words.reverse
  modify fun p => { p with words := [], lines := 0 }
  begin r x name (x.program ++ words)

def sizeOf (w : String) : Nat := w.length + 1

def sizeOfAll (l : List String) : Nat := l.foldl (fun n w => n + sizeOf w) 0

def take (r : Runner) (x : Order) (name : String) (w : String) : Work Unit := do
  if x.room < sizeOfAll x.program + sizeOf w then giveUp r x name "argument line too long"
  if x.room < sizeOfAll (x.program ++ (← get).words) + sizeOf w then
    if x.isStrict ∧ (x.wordsPerRun.isSome ∨ x.linesPerRun.isSome) then
      giveUp r x name "argument list too long"
    beginWithWords r x name
  modify fun p => { p with words := w :: p.words }
  if x.wordsPerRun.any (· ≤ (← get).words.length) then beginWithWords r x name

/-- Begins a run with a word in place of a text. -/
def beginWith (r : Runner) (x : Order) (name mark w : String) : Work Unit := do
  if x.room < sizeOf w then giveUp r x name "argument line too long"
  let arguments := (x.program.drop 1).map fun (a : String) => w.intercalate (a.splitOn mark)
  let isEndless := mark.isEmpty && !arguments.isEmpty
  if isEndless || arguments.any fun a => x.room ≤ sizeOf a then
    giveUp r x name "command too long"
  if x.room < sizeOfAll (x.program.take 1 ++ arguments) then
    giveUp r x name "argument list too long"
  begin r x name (x.program.take 1 ++ arguments)

def unclosedText (sign : Char) : String :=
  "unmatched " ++ (if sign = '"' then "double" else "single") ++
    " quote; by default quotes are special to xargs unless you use the -0 option"

def supply (r : Runner) (x : Order) (name : String) : List Item → Work Unit
  | [] => return ()
  | .unclosed sign :: _ => do
    if x.mark.isNone ∧ !x.isStrict ∧ !(← get).words.isEmpty then beginWithWords r x name
    giveUp r x name (unclosedText sign)
  | .lineEnd :: rest => do
    modify fun p => { p with lines := p.lines + 1 }
    if x.mark.isNone ∧ x.linesPerRun.any (· ≤ (← get).lines) then beginWithWords r x name
    supply r x name rest
  | .word cs :: rest => do
    if x.sign.isNone ∧ x.stop = some cs then return ()
    else
      let w := String.ofList (cs.takeWhile (·.toNat ≠ 0))
      match x.mark with
      | some mark => beginWith r x name mark w
      | none => take r x name w
      supply r x name rest

def zeroWarning : String :=
  "WARNING: a NUL character occurred in the input.  It cannot be passed through in the argument " ++
    "list.  Did you mean to use the --null option?"

def itemsOf (x : Order) (cs : List Char) : List Item :=
  match x.sign with
  | some sign => signedItems sign cs
  | none => plainItems x.mark.isSome cs

/-- Runs a program as often as the words of an input need; the status. -/
def supplyAll (r : Runner) (x : Order) (name : String) (cs : List Char) : Running Nat := do
  let work : Work Unit := do
    if x.room < sizeOfAll (if x.mark.isSome then x.program.take 1 else x.program) then
      giveUp r x name "cannot fit single argument within argument list size limit"
    if x.sign.isNone ∧ cs.contains (Char.ofNat 0) then
      let _ ← perform (complain name zeroWarning)
    supply r x name (itemsOf x cs)
    let p ← get
    if x.mark.isNone ∧ (!p.words.isEmpty ∨ (x.runsWithout ∧ !p.hasRun)) then
      beginWithWords r x name
    await r x name
  let (result, p) ← (work.run).run {}
  match result with
  | .ok () => return p.status
  | .error status => return if p.status = 0 then status else p.status

/-- Runs a program with words from the input as further arguments. -/
def withArguments : Tool :=
  withOptions
    { flags := ['0', 'o', 'p', 'r', 't', 'x', Char.ofNat 256]
      valued := ['a', 'd', 'E', 'I', 'L', 'n', 's', 'P', Char.ofNat 257]
      optional := ['e', 'i', 'l'], leadingOnly := true
      long := [("null", '0'), ("arg-file", 'a'), ("delimiter", 'd'), ("eof", 'e'),
        ("replace", 'i'), ("max-lines", 'l'), ("max-args", 'n'), ("open-tty", 'o'),
        ("interactive", 'p'), ("no-run-if-empty", 'r'), ("max-chars", 's'), ("verbose", 't'),
        ("show-limits", Char.ofNat 256), ("exit", 'x'), ("max-procs", 'P'),
        ("process-slot-var", Char.ofNat 257)] } 1
    fun r name i => do
      match ← read name {} i.options with
      | .error e =>
        if e.hints then misuse name e.text 1
        else
          let _ ← complain name e.text
          return 1
      | .ok x =>
        let x := if i.operands.isEmpty then x else { x with program := i.operands }
        match x.file.filter (· ≠ "-") with
        | none =>
          match ← readAll 0 with
          | .error _ => supplyAll r x name []
          | .ok b => supplyAll r { x with file := none } name (chars b)
        | some path =>
          match ← contentOf path with
          | .error .isDirectory => supplyAll r x name []
          | .error e =>
            let _ ← complain name ("Cannot open input file " ++ quotedText path ++ ": " ++ e.reason)
            return 1
          | .ok b => supplyAll r x name (chars b)

end WasmBundle.Shell.Supplying
