import WasmBundle.Shell.Subshell

/-!
# Commands on the state of the shell

The commands that set variables, options and arguments, and those that read values into variables.
-/

namespace WasmBundle.Shell.Builtin

open Running

def number (text : String) : Running Nat := do
  match Numeral.count? text with
  | some n => return n
  | none => fail ("Illegal number: " ++ text)

/-- Refuses options other than those whose letters are given; the rest of the arguments. -/
def options (known : List Char) : List String → Running (List Char × List String)
  | [] => return ([], [])
  | a :: rest => do
    match a.toList with
    | ['-', '-'] => return ([], rest)
    | '-' :: c :: letters =>
      match (c :: letters).find? fun l => !known.contains l with
      | some l => fail ("Illegal option -" ++ String.ofList [l])
      | none =>
        let (others, operands) ← options known rest
        return (c :: letters ++ others, operands)
    | _ => return ([], a :: rest)

/-- A text in apostrophes, with runs of apostrophes of its own in double quotes. -/
def readableParts : Nat → List Char → List Char
  | 0, _ => []
  | limit + 1, cs =>
    let plain := cs.takeWhile (· ≠ apostrophe)
    let marks := (cs.drop plain.length).takeWhile (· = apostrophe)
    let rest := cs.drop (plain.length + marks.length)
    let start := apostrophe :: plain ++ [apostrophe]
    if marks.isEmpty then start
    else start ++ '"' :: marks ++ '"' :: (if rest.isEmpty then [] else readableParts limit rest)

def readable (text : String) : String :=
  String.ofList (readableParts (text.length + 1) text.toList)

/-- The place of a name in a table that is ordered by the sums of characters. -/
def bucket (size : Nat) (name : String) : Nat :=
  let codes := name.toList.map Char.toNat
  codes.foldl (· + ·) (16 * codes.headD 0) % 32768 % size

/-- Entries by the places of their names, and by age where these are equal. -/
def byBucket (size : Nat) (l : List (String × String)) : List (String × String) :=
  l.mergeSort fun a b => bucket size a.1 ≤ bucket size b.1

def aliasText (entry : String × String) : String := entry.1 ++ "=" ++ readable entry.2 ++ "\n"

/-- A name, and the text it is to stand for, which follows an equals sign that is not first. -/
def aliasParts (text : String) : Option (String × String) :=
  match text.toList with
  | [] => none
  | c :: rest =>
    let name := rest.takeWhile (· ≠ '=')
    match rest.drop name.length with
    | [] => none
    | _ :: value => some (String.ofList (c :: name), String.ofList value)

/-- Sets aliases, or shows those that are named. -/
def setAliases : List String → Running Nat
  | [] => return 0
  | a :: rest => do
    let known := (← get).aliases
    match aliasParts a with
    | some (name, value) =>
      let changed := known.map fun e => if e.1 = name then (name, value) else e
      modify fun p =>
        { p with
          aliases := if known.any (·.1 == name) then changed else known ++ [(name, value)] }
      setAliases rest
    | none =>
      match known.lookup a with
      | some value =>
        print (aliasText (a, value))
        setAliases rest
      | none =>
        let status ← complain "alias" (a ++ " not found")
        return max status (← setAliases rest)

def aliasTableSize : Nat := 39

def nameReplacements (arguments : List String) : Running Nat := do
  if arguments.isEmpty then
    for e in byBucket aliasTableSize (← get).aliases do print (aliasText e)
    return 0
  else setAliases arguments

def removeAliases : List String → Running Nat
  | [] => return 0
  | a :: rest => do
    if (← get).aliases.any (·.1 == a) then
      modify fun p => { p with aliases := p.aliases.filter (·.1 != a) }
      removeAliases rest
    else
      let status ← complain "unalias" (a ++ " not found")
      return max status (← removeAliases rest)

def unalias (arguments : List String) : Running Nat := do
  let (letters, operands) ← options ['a'] arguments
  if letters.contains 'a' then
    modify fun p => { p with aliases := [] }
    return 0
  else removeAliases operands

def showVariables (lead : String) (keep : Variable → Bool) : Running Unit := do
  let all := ((← get).bindings.filter keep).mergeSort fun a b => decide (a.name ≤ b.name)
  for v in all do
    let value := (v.value.map fun x => "=" ++ readable x).getD ""
    print (lead ++ v.name ++ value ++ "\n")

/-- A name, and the value behind an equals sign. -/
def nameAndValue (text : String) : String × Option String :=
  let name := text.toList.takeWhile (· ≠ '=')
  match text.toList.drop name.length with
  | [] => (text, none)
  | _ :: value => (String.ofList name, some (String.ofList value))

def checkName (name : String) : Running Unit := do
  if !isName name.toList then fail (name ++ ": bad variable name")

/-- The variable that a text names; an equals sign and what is behind it do not count. -/
def nameIn (text : String) : Running String := do
  let name := (nameAndValue text).1
  checkName name
  return name

def assignNamed (text value : String) : Running Unit := do assign (← nameIn text) value

/-- Marks variables, and gives values to those that come with one. -/
def markAll (mark : Variable → Variable) : List String → Running Unit
  | [] => return ()
  | a :: rest => do
    let (name, value) := nameAndValue a
    checkName name
    match value with
    | some x => assign name x
    | none => pure ()
    change name mark
    markAll mark rest

def marking (lead : String) (keep : Variable → Bool) (mark : Variable → Variable)
    (arguments : List String) : Running Nat := do
  let (letters, operands) ← options ['p'] arguments
  if letters.isEmpty ∧ !operands.isEmpty then markAll mark operands
  else showVariables lead keep
  return 0

def exportVariables : List String → Running Nat :=
  marking "export " (·.exported) fun v => { v with exported := true }

def protectVariables : List String → Running Nat :=
  marking "readonly " (·.readOnly) fun v => { v with readOnly := true }

def makeLocal : List String → Running Nat
  | [] => return 0
  | a :: rest => do
    let (name, value) := nameAndValue a
    checkName name
    match (← get).locals with
    | [] => fail "not in a function"
    | scope :: scopes =>
      if !scope.any (·.1 == name) then
        let before := variableNamed? (← get) name
        modify fun p => { p with locals := ((name, before) :: scope) :: scopes }
      match value with
      | some x => assign name x
      | none => pure ()
      makeLocal rest

def localVariables (arguments : List String) : Running Nat := do
  if (← get).locals.isEmpty then fail "not in a function" else makeLocal arguments

def unsetAll (functions : Bool) : List String → Running Unit
  | [] => return ()
  | name :: rest => do
    if functions then
      modify fun p => { p with functions := p.functions.filter (·.name != name) }
    else unassign (← nameIn name)
    unsetAll functions rest

def unset (arguments : List String) : Running Nat := do
  let (letters, operands) ← options ['v', 'f'] arguments
  unsetAll (letters.getLast? = some 'f') operands
  return 0

/-- The options of the shell, by letter and name. -/
def shellOptions : List (Char × String) :=
  [('e', "errexit"), ('f', "noglob"), ('I', "ignoreeof"), ('i', "interactive"), ('m', "monitor"),
    ('n', "noexec"), ('s', "stdin"), ('x', "xtrace"), ('v', "verbose"), ('V', "vi"),
    ('E', "emacs"), ('C', "noclobber"), ('a', "allexport"), ('b', "notify"), ('u', "nounset")]

def setOption (on : Bool) (c : Char) : Running Unit :=
  modify fun p =>
    let l := if on then c :: p.options else p.options.filter (· != c)
    { p with options := (shellOptions.map (·.1)).reverse.filter l.contains }

def showOptions (asCommands : Bool) : Running Unit := do
  let p ← get
  if !asCommands then print "Current option settings\n"
  for (c, name) in shellOptions do
    let on := hasOption p c
    if asCommands then print ("set " ++ (if on then "-o " else "+o ") ++ name ++ "\n")
    else
      let padding := String.ofList (List.replicate (16 - name.length) ' ')
      print (name ++ padding ++ (if on then "on" else "off") ++ "\n")

/-- Sets options by their letters. `o` takes a name from the arguments that follow. -/
def setLetters (on : Bool) : List Char → List String → Running (List String)
  | [], rest => return rest
  | 'o' :: letters, rest => do
    match rest with
    | [] =>
      showOptions (!on)
      setLetters on letters []
    | name :: others =>
      match shellOptions.find? (·.2 == name) with
      | some (c, _) =>
        setOption on c
        setLetters on letters others
      | none => fail ("Illegal option " ++ (if on then "-" else "+") ++ "o " ++ name)
  | c :: letters, rest => do
    if shellOptions.any (·.1 == c) then
      setOption on c
      setLetters on letters rest
    else fail ("Illegal option " ++ (if on then "-" else "+") ++ String.ofList [c])

/-- Sets options up to the first argument that is none; the arguments from there on, if `--` or
an operand shows that there are any. -/
def setOptions : Nat → List String → Running (Option (List String))
  | 0, _ => return none
  | limit + 1, arguments => do
    match arguments with
    | [] => return none
    | a :: rest =>
      match a.toList with
      | ['-', '-'] => return some rest
      | ['-'] =>
        setOption false 'x'
        setOption false 'v'
        return if rest.isEmpty then none else some rest
      | '-' :: letters => setOptions limit (← setLetters true letters rest)
      | '+' :: letters => setOptions limit (← setLetters false letters rest)
      | _ => return some arguments

/-- Takes back the control of jobs, for which there is no terminal. -/
def refuseControl : Running Unit := do
  warn "can't access tty; job control turned off"
  setOption false 'm'

def set (arguments : List String) : Running Nat := do
  if arguments.isEmpty then showVariables "" (·.value.isSome)
  else
    let rest ← setOptions (arguments.length + 1) arguments
    if hasOption (← get) 'm' then refuseControl
    match rest with
    | some l => setArguments l
    | none => pure ()
  return 0

def shift (arguments : List String) : Running Nat := do
  let n ←
    match arguments with
    | [] => pure 1
    | a :: _ => number a
  if (← get).arguments.length < n then fail "can't shift that many"
  else
    setArguments ((← get).arguments.drop n)
    return 0

/-- A line whose backslashes quote what follows them; one at its end adds the next line. Also says
whether a line end closed it. -/
def logicalLine : Nat → Running (List Glyph × Bool)
  | 0 => return ([], false)
  | limit + 1 => do
    match ← readLine 0 with
    | .error _ => return ([], false)
    | .ok (b, closed) =>
      let (gs, continues) := unquote (ofOctets b).toList
      if continues ∧ closed then
        let (others, closed) ← logicalLine limit
        return (gs ++ others, closed)
      else return (gs, closed)
where
  unquote : List Char → List Glyph × Bool
    | [] => ([], false)
    | '\\' :: c :: rest =>
      let (gs, continues) := unquote rest
      (⟨c, true⟩ :: gs, continues)
    | ['\\'] => ([], true)
    | c :: rest =>
      let (gs, continues) := unquote rest
      (⟨c, false⟩ :: gs, continues)

def separates (separators : List Char) (g : Glyph) : Bool :=
  !g.quoted && separators.contains g.char

def isSeparatingBlank (separators : List Char) (g : Glyph) : Bool :=
  separates separators g && (g.char = ' ' || g.char = '\t' || g.char = '\n')

def glyphText (gs : List Glyph) : String := String.ofList (gs.map (·.char))

/-- What follows a field: blanks, and at most one separator that is none. -/
def afterField (separators : List Char) (gs : List Glyph) : List Glyph :=
  let rest := gs.dropWhile (isSeparatingBlank separators)
  match rest with
  | g :: others =>
    if separates separators g then others.dropWhile (isSeparatingBlank separators) else rest
  | [] => []

/-- The value of the last variable: the rest of the line without the blanks at its end, or the only
field in it. -/
def lastField (separators : List Char) (gs : List Glyph) : List Glyph :=
  let field := gs.takeWhile fun g => !separates separators g
  let rest := gs.drop field.length
  if (afterField separators rest).isEmpty then field
  else (gs.reverse.dropWhile (isSeparatingBlank separators)).reverse

def assignFields (separators : List Char) : List String → List Glyph → Running Unit
  | [], _ => return ()
  | [name], gs => assignNamed name (glyphText (lastField separators gs))
  | name :: names, gs => do
    let field := gs.takeWhile fun g => !separates separators g
    assignNamed name (glyphText field)
    assignFields separators names (afterField separators (gs.drop field.length))

/-- Options of `read`; the prompt, which is never shown, goes with its option. -/
def readOptions : List String → Bool → Running (Bool × List String)
  | [], raw => return (raw, [])
  | "--" :: rest, raw => return (raw, rest)
  | "-r" :: rest, _ => readOptions rest true
  | "-p" :: _ :: rest, raw => readOptions rest raw
  | a :: rest, raw => do
    match a.toList with
    | '-' :: 'p' :: _ :: _ => readOptions rest raw
    | '-' :: c :: _ => fail ("Illegal option -" ++ String.ofList [c])
    | _ => return (raw, a :: rest)

def read (arguments : List String) : Running Nat := do
  let (raw, names) ← readOptions arguments false
  if names.isEmpty then fail "arg count"
  else
    let (gs, closed) ←
      if raw then
        match ← readLine 0 with
        | .error _ => pure ([], false)
        | .ok (b, closed) =>
          pure ((ofOctets b).toList.map fun c => (⟨c, false⟩ : Glyph), closed)
      else logicalLine 1000
    let separators := Expansion.separators (← get)
    assignFields separators names (gs.dropWhile (isSeparatingBlank separators))
    return if closed then 0 else 1

/-- Whether a letter is known, and whether it takes an argument. -/
def letterKind? (known : List Char) (c : Char) : Option Bool :=
  match known with
  | [] => none
  | k :: rest =>
    let takes := rest.head? = some ':'
    if k = c ∧ c ≠ ':' then some takes else letterKind? rest c

/-- The option that comes next: its letter and what is left of its argument, with the number of the
argument after that; no letter at the end of the options. -/
def optionAt (p : Process) (arguments : List String) : Option (Char × List Char) × Nat :=
  let index := if arguments.length + 1 < p.optionIndex then 1 else p.optionIndex
  let started := index = p.optionIndex && p.optionPlace > 0
  let left := if started then (arguments.getD (index - 2) "").toList.drop p.optionPlace else []
  match left, (arguments.getD (index - 1) "").toList with
  | c :: rest, _ => (some (c, rest), index)
  | [], ['-', '-'] => (none, index + 1)
  | [], '-' :: c :: rest => (some (c, rest), index + 1)
  | [], _ => (none, index)

def nextOption (known name : String) (arguments : List String) : Running Nat := do
  let silent := known.toList.head? = some ':'
  let store := fun (index : Nat) (left : List Char) (sign : String) => do
    assign "OPTIND" (toString index)
    let length := (arguments.getD (index - 2) "").length
    let place := if left.isEmpty then 0 else length - left.length
    modify fun p => { p with optionIndex := index, optionPlace := place }
    assignNamed name sign
  match optionAt (← get) arguments with
  | (none, index) =>
    store index [] "?"
    return 1
  | (some (c, rest), index) =>
    let letter := String.ofList [c]
    let refuse := fun (text sign : String) => do
      if silent then
        assign "OPTARG" letter
        store index rest sign
      else
        printError (text ++ "\n")
        unassign "OPTARG"
        store index rest "?"
      return 0
    match letterKind? known.toList c with
    | none => refuse ("Illegal option -" ++ letter) "?"
    | some false =>
      assign "OPTARG" ""
      store index rest letter
      return 0
    | some true =>
      if !rest.isEmpty then
        assign "OPTARG" (String.ofList rest)
        store index [] letter
        return 0
      else
        match arguments[index - 1]? with
        | some argument =>
          assign "OPTARG" argument
          store (index + 1) [] letter
          return 0
        | none => refuse ("No arg for -" ++ letter ++ " option") ":"

def readOption (arguments : List String) : Running Nat := do
  match arguments with
  | known :: name :: rest =>
    let p ← get
    nextOption known name (if rest.isEmpty then p.arguments else rest)
  | _ => fail "Usage: getopts optstring var [arg...]"

end WasmBundle.Shell.Builtin
