import WasmBundle.CommandLine.Request

/-!
# Arguments

Arguments are read in order into items: options, with their values, and operands. A value may be
attached to its option or follow it as an argument of its own, which must not look like an option;
after `--` everything is an operand. The options of the program may stand before the name of a
command or after it, where those of the command join them. Arguments are bytes: a path need not be a
text, all other values must be.
-/

namespace WasmBundle.CommandLine

inductive Opt where
  | color
  | verbose
  | version
  | help
  | output
  | format
  | shim
  | dependencyFile
  | config
  | grainHome
  | includeDir
  | resolve
  deriving DecidableEq, Repr

namespace Opt

def long : Opt → String
  | .color => "color"
  | .verbose => "verbose"
  | .version => "version"
  | .help => "help"
  | .output => "output"
  | .format => "format"
  | .shim => "shim"
  | .dependencyFile => "dep-file"
  | .config => "config"
  | .grainHome => "grain-home"
  | .includeDir => "include"
  | .resolve => "resolve"

def short? : Opt → Option Char
  | .verbose => some 'v'
  | .version => some 'V'
  | .help => some 'h'
  | .output => some 'o'
  | .includeDir => some 'I'
  | _ => none

/-- Whether the option has the long name. -/
def isLong (o : Opt) (name : Bytes) : Bool := name = Bytes.utf8 o.long

/-- Whether the option has the letter. -/
def isShort (o : Opt) (letter : UInt8) : Bool := o.short?.map Char.toUInt8 = some letter

def takesValue : Opt → Bool
  | .verbose => false
  | .version => false
  | .help => false
  | _ => true

end Opt

/-- Why arguments are not understood. -/
inductive UsageError where
  | unknownArgument (text : String)
  | missingValue (o : Opt)
  | unwantedValue (o : Opt)
  | invalidValue (o : Opt) (value : String)
  | repeated (o : Opt)
  | emptyOperand
  | missingOperand
  | missingCommand
  | unknownCommand (name : String)
  deriving DecidableEq, Repr

def UsageError.message : UsageError → String
  | .unknownArgument text => "unexpected argument " ++ text
  | .missingValue o => "a value is required for --" ++ o.long
  | .unwantedValue o => "no value is expected for --" ++ o.long
  | .invalidValue o value => "invalid value " ++ value ++ " for --" ++ o.long
  | .repeated o => "--" ++ o.long ++ " cannot be used multiple times"
  | .emptyOperand => "an operand must not be empty"
  | .missingOperand => "an operand is missing"
  | .missingCommand => "a command is missing"
  | .unknownCommand name => "unrecognized command " ++ name

/-! ## Items -/

inductive Item where
  | operand (value : Bytes)
  | setting (o : Opt) (value : Bytes)
  | raised (o : Opt)
  | fault (e : UsageError)
  deriving DecidableEq, Repr

/-- The byte `-`. -/
def dash : UInt8 := 0x2d

/-- The byte `=`. -/
def equalsSign : UInt8 := 0x3d

/-- Whether an argument is an option where a value is expected. A single dash is none. -/
def looksLikeOption : Bytes → Bool
  | c :: _ :: _ => c = dash
  | _ => false

/-- An option that takes its value from the next argument. -/
def separate (o : Opt) : List Bytes → Item × List Bytes
  | value :: rest =>
    if looksLikeOption value then (.fault (.missingValue o), value :: rest)
    else (.setting o value, rest)
  | [] => (.fault (.missingValue o), [])

/-- The value after the first equals sign. -/
def attached? (b : Bytes) : Option Bytes :=
  match b.dropWhile (· ≠ equalsSign) with
  | [] => none
  | _ :: value => some value

/-- An option given by its long name, with a value if one is attached. -/
def readLong (known : List Opt) (b : Bytes) (rest : List Bytes) : Item × List Bytes :=
  let name : Bytes := b.takeWhile (· ≠ equalsSign)
  match known.find? (·.isLong name), attached? b with
  | none, _ => (.fault (.unknownArgument ("--" ++ name.shown)), rest)
  | some o, none => if o.takesValue then separate o rest else (.raised o, rest)
  | some o, some value =>
    (if o.takesValue then .setting o value else .fault (.unwantedValue o), rest)

/-- Options given by their letters. What follows the letter of one that takes a value is the value;
an equals sign before it is dropped. -/
def readShort (known : List Opt) : Bytes → List Bytes → List Item × List Bytes
  | [], rest => ([], rest)
  | c :: b, rest =>
    match known.find? (·.isShort c) with
    | none =>
      let letter := (lossyText (c :: b)).take 1
      ([.fault (.unknownArgument (String.ofList ('-' :: letter)))], rest)
    | some o =>
      if o.takesValue then
        match b with
        | [] =>
          let (item, rest) := separate o rest
          ([item], rest)
        | d :: value => ([.setting o (if d = equalsSign then value else d :: value)], rest)
      else
        let (items, rest) := readShort known b rest
        (.raised o :: items, rest)

/-- The items of one argument, and the arguments after it. -/
def readArgument (known : List Opt) (argument : Bytes) (rest : List Bytes) :
    List Item × List Bytes :=
  match argument with
  | c :: d :: b =>
    if c ≠ dash then ([.operand argument], rest)
    else if d = dash then
      let (item, rest) := readLong known b rest
      ([item], rest)
    else readShort known (d :: b) rest
  | _ => ([.operand argument], rest)

theorem separate_length (o : Opt) (l : List Bytes) : (separate o l).2.length ≤ l.length := by
  unfold separate
  split
  · split <;> simp
  · simp

theorem readLong_length (known : List Opt) (b : Bytes) (rest : List Bytes) :
    (readLong known b rest).2.length ≤ rest.length := by
  simp only [readLong]
  split
  · simp
  · split
    · exact separate_length _ rest
    · simp
  · simp

theorem readShort_length (known : List Opt) (b : Bytes) (rest : List Bytes) :
    (readShort known b rest).2.length ≤ rest.length := by
  induction b with
  | nil => simp [readShort]
  | cons c b ih =>
    unfold readShort
    split
    · simp
    · split
      · split
        · exact separate_length _ rest
        · simp
      · exact ih

theorem readArgument_length (known : List Opt) (argument : Bytes) (rest : List Bytes) :
    (readArgument known argument rest).2.length ≤ rest.length := by
  unfold readArgument
  split
  · split
    · simp
    · split
      · exact readLong_length known _ rest
      · exact readShort_length known _ rest
  · simp

/-- The argument after which everything is an operand. -/
def endOfOptions : Bytes := [dash, dash]

/-- The items of all arguments. -/
def readAll (known : List Opt) : List Bytes → List Item
  | [] => []
  | argument :: rest =>
    if argument = endOfOptions then rest.map Item.operand
    else
      have := readArgument_length known argument rest
      (readArgument known argument rest).1 ++ readAll known (readArgument known argument rest).2
termination_by l => l.length

/-! ## Settings -/

/-- Why the reading of arguments ends without a request. -/
inductive Stop where
  | misuse (e : UsageError)
  | help
  | version
  deriving DecidableEq, Repr

/-- What arguments set, before it is known whether it makes a request. -/
structure Settings where
  operand : Option Path := none
  color : Option String := none
  output : Option Path := none
  format : Option OutputFormat := none
  shim : Option Path := none
  dependencyFile : Option Path := none
  overrides : Overrides := {}
  deriving DecidableEq, Repr

/-- A value for a setting that must not have one yet. -/
def once {α : Type} (o : Opt) (read : Bytes → Option α) (value : Bytes) (old : Option α) :
    Except Stop (Option α) :=
  match old, read value with
  | some _, _ => .error (.misuse (.repeated o))
  | none, none => .error (.misuse (.invalidValue o value.shown))
  | none, some v => .ok (some v)

/-- A path in an argument is not empty. -/
def path? (value : Bytes) : Option Path := if value.isEmpty then none else some ⟨value⟩

/-- The first of the choices that has the value as its name. -/
def choice? {α : Type} (name : α → String) (choices : List α) (value : Bytes) : Option α :=
  choices.find? fun a => value = Bytes.utf8 (name a)

def formatName : OutputFormat → String
  | .script => "js"
  | .container => "binary"

def format? : Bytes → Option OutputFormat := choice? formatName [.script, .container]

def strategyName : ResolveStrategy → String
  | .probe => "probe"
  | .index => "index"

def strategy? : Bytes → Option ResolveStrategy := choice? strategyName [.probe, .index]

namespace Settings

/-- The settings with the value of an option. -/
def set (s : Settings) (o : Opt) (value : Bytes) : Except Stop Settings :=
  match o with
  | .color => do return { s with color := ← once o Bytes.text? value s.color }
  | .output => do return { s with output := ← once o path? value s.output }
  | .format => do return { s with format := ← once o format? value s.format }
  | .shim => do return { s with shim := ← once o path? value s.shim }
  | .dependencyFile => do
    return { s with dependencyFile := ← once o path? value s.dependencyFile }
  | .config => do
    let config ← once o path? value s.overrides.config
    return { s with overrides := { s.overrides with config } }
  | .grainHome => do
    let grainHome ← once o path? value s.overrides.grainHome
    return { s with overrides := { s.overrides with grainHome } }
  | .resolve => do
    let strategy ← once o strategy? value s.overrides.strategy
    return { s with overrides := { s.overrides with strategy } }
  | .includeDir =>
    match path? value with
    | some dir =>
      let includeDirs := s.overrides.includeDirs ++ [dir]
      .ok { s with overrides := { s.overrides with includeDirs } }
    | none => .error (.misuse (.invalidValue o value.shown))
  | _ => .error (.misuse (.unwantedValue o))

/-- The settings after an item. -/
def accept (s : Settings) : Item → Except Stop Settings
  | .setting o value => s.set o value
  | .raised .version => .error .version
  | .raised .help => .error .help
  | .raised _ => .ok s
  | .fault e => .error (.misuse e)
  | .operand value =>
    match s.operand, path? value with
    | some _, _ => .error (.misuse (.unknownArgument value.shown))
    | none, none => .error (.misuse .emptyOperand)
    | none, some p => .ok { s with operand := some p }

end Settings

/-! ## Commands -/

/-- Options that may stand before a command. -/
def programOptions : List Opt := [.color, .verbose, .version, .help]

/-- Options that every command takes. -/
def sharedOptions : List Opt := [.color, .verbose, .help]

def overrideOptions : List Opt := [.config, .grainHome, .includeDir, .resolve]

inductive Command where
  | bundle
  | imports
  | resolve
  | inspect
  deriving DecidableEq, Repr

namespace Command

def name : Command → String
  | .bundle => "bundle"
  | .imports => "imports"
  | .resolve => "resolve"
  | .inspect => "inspect"

def ofName? : Bytes → Option Command := choice? name [.bundle, .imports, .resolve, .inspect]

def options : Command → List Opt
  | .bundle => sharedOptions ++ overrideOptions ++ [.output, .format, .shim, .dependencyFile]
  | .imports => sharedOptions ++ [.config]
  | .resolve => sharedOptions ++ overrideOptions
  | .inspect => sharedOptions

/-- The request of a command on an operand. -/
def request (c : Command) (operand : Path) (s : Settings) : Request :=
  match c with
  | .bundle =>
    .bundle
      { source := operand
        output := s.output
        format := s.format.getD .script
        shim := s.shim
        dependencyFile := s.dependencyFile
        overrides := s.overrides }
  | .imports => .imports operand s.overrides.config
  | .resolve => .resolve operand s.overrides
  | .inspect => .inspect operand

end Command

/-- The request of a command with arguments. A choice of colours made before the command counts
where the arguments make none. -/
def readCommand (c : Command) (before : Settings) (arguments : List Bytes) :
    Except Stop Invocation := do
  let s ← (readAll c.options arguments).foldlM Settings.accept {}
  match s.operand with
  | none => .error (.misuse .missingOperand)
  | some p => .ok { request := c.request p s, colors := s.color.or before.color }

/-- The command that asks for help, on the program or on one command. -/
def helpName : Bytes := Bytes.utf8 "help"

def readHelp : List Bytes → Stop
  | [] => .help
  | name :: rest =>
    if name = helpName ∨ (Command.ofName? name).isSome then
      match rest with
      | [] => .help
      | extra :: _ => .misuse (.unknownCommand extra.shown)
    else .misuse (.unknownCommand name.shown)

/-- Reads the options of the program up to the name of a command. -/
def readProgram (s : Settings) : List Bytes → Except Stop Invocation
  | [] => .error (.misuse .missingCommand)
  | argument :: rest =>
    have := readArgument_length programOptions argument rest
    match (readArgument programOptions argument rest).1 with
    | [.operand name] =>
      match Command.ofName? name with
      | some c => readCommand c s rest
      | none =>
        if name = helpName then .error (readHelp rest)
        else .error (.misuse (.unknownCommand name.shown))
    | items =>
      match items.foldlM Settings.accept s with
      | .error stop => .error stop
      | .ok s => readProgram s (readArgument programOptions argument rest).2
termination_by l => l.length

/-- The request that the arguments of the program make. -/
def parse (arguments : List Bytes) : Except Stop Invocation := readProgram {} arguments

end WasmBundle.CommandLine
