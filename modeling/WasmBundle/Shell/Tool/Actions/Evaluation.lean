import WasmBundle.Shell.Tool.Actions.Functions

/-!
# Running programs of actions

Terms have values and statements are carried out, both with effects on the machine. A program runs
its rules for the start, then all others for every record, then those for the end.
-/

namespace WasmBundle.Shell.Actions.Evaluation

open Machine

def keyOf (values : List Value) : Work Key := do
  match values with
  | [v] => return v.toKey (← get).format
  | _ =>
    let texts ← values.mapM textOf
    return .text ((← textNamed "SUBSEP").intercalate texts)

/-- What a bare name is as an argument: a table, unless it has a value. What is neither yet may
become a table. -/
def slotOf (n : Name) : Work Slot := do
  match n with
  | .argument i =>
    match (← get).arguments[i]? with
    | some (.table t) => return .table t
    | some (.value .unset) => return .table (← tableOf n)
    | some (.value v) => return .value v
    | none => return .value .unset
  | .shared _ =>
    match ← load n with
    | .unset => return .table (← tableOf n)
    | v => return .value v

/-- How long a value is: a table has as many keys, a text as many characters. -/
def lengthOf (n : Name) : Work Value := do
  match ← slotOf n with
  | .table t => return .ofNat (← onTable t fun t => (t.size, t))
  | .value v => return .ofNat (← textOf v).length

def recordFits (r : Regex) : Work Bool := do
  let text ← textOf (← get).record
  return (Matching.find? r text.toList.toArray 0).isSome

/-- Puts what was read into a place or makes it the record; one, zero at the end, or -1 if there was
nothing to read from. -/
def received (place : Option Place) (found : Option (Option String)) : Work Value := do
  match found with
  | none => return .number (-1)
  | some none => return .number 0
  | some (some text) =>
    match place with
    | some p => p.save (.input text)
    | none => setRecord (.input text)
    return .number 1

def deliver (target : Option (Way × String)) (text : String) : Work Unit :=
  match target with
  | none => emit text
  | some (way, name) => send way name text

def printed (v : Value) : Work String := do
  match v with
  | .number _ => return v.toText (← get).printFormat
  | _ => return v.toText ""

def statusOf (v : Value) : Nat := (Layout.signedOf v.toFloat % 256).toNat

mutual

def valueOf (r : Runner) : Nat → Term → Work Value
  | 0, _ => return .unset
  | limit + 1, t => do
    let value := valueOf r limit
    let isTrue := fun (a : Term) => do return (← value a).isTrue
    match t with
    | .number x => return .number x
    | .text s => return .text s
    | .regex e => return .ofBool (← recordFits e)
    | .name n => load n
    | .field a => field (← fieldNumber (← value a))
    | .element .. => (← placeOf r limit t).load
    | .assign operation place a =>
      let p ← placeOf r limit place
      let v ← value a
      match operation with
      | none =>
        p.save v
        return v
      | some o =>
        let v := Value.number (Functions.calculate o (← p.load).toFloat v.toFloat)
        p.save v
        return v
    | .count before up place =>
      let p ← placeOf r limit place
      let x := (← p.load).toFloat
      let y := if up then x + 1 else x - 1
      p.save (.number y)
      return .number (if before then y else x)
    | .choose c yes no => do
      if ← isTrue c then value yes else value no
    | .both a b => do
      if ← isTrue a then return .ofBool (← isTrue b) else return .ofBool false
    | .either a b => do
      if ← isTrue a then return .ofBool true else return .ofBool (← isTrue b)
    | .not a => return .ofBool (!(← isTrue a))
    | .negative a => return .number (-(← value a).toFloat)
    | .positive a => return .number (← value a).toFloat
    | .calculate o a b =>
      let x ← value a
      let y ← value b
      return .number (Functions.calculate o x.toFloat y.toFloat)
    | .compare c a b =>
      let x ← value a
      let y ← value b
      let order := Value.order (← get).format x y
      return .ofBool (match c with
        | .less => order == .lt
        | .atMost => order != .gt
        | .equal => order == .eq
        | .unequal => order != .eq
        | .greater => order == .gt
        | .atLeast => order != .lt)
    | .join a b =>
      let x ← textOf (← value a)
      return .text (x ++ (← textOf (← value b)))
    | .fits negated a pattern =>
      let text ← textOf (← value a)
      let e ← regexFor r limit pattern
      let fits := (Matching.find? e text.toList.toArray 0).isSome
      return .ofBool (fits != negated)
    | .member keys table =>
      let k ← keyOf (← keys.mapM value)
      let t ← tableOf table
      return .ofBool (← onTable t fun t =>
        let (v, t) := t.find k
        (v.isSome, t))
    | .readRecord place =>
      let p ← place.mapM (placeOf r limit)
      received p ((← nextMain).map some |>.orElse fun _ => some none)
    | .readFile file place =>
      let p ← place.mapM (placeOf r limit)
      let name ← textOf (← value file)
      received p (← nextOfFile name)
    | .readCommand command place =>
      let text ← textOf (← value command)
      let p ← place.mapM (placeOf r limit)
      received p (← nextOfCommand r text)
    | .call name arguments => callRoutine r limit name arguments
    | .builtin name arguments => callBuiltin r limit name arguments

def placeOf (r : Runner) : Nat → Term → Work Place
  | 0, _ => return .field 0
  | limit + 1, t => do
    match t with
    | .name n => return .name n
    | .field a => return .field (← fieldNumber (← valueOf r limit a))
    | .element table keys =>
      let k ← keyOf (← keys.mapM (valueOf r limit))
      let n ← tableOf table
      let _ ← onTable n fun t => t.demand k
      return .element n k
    | _ => return .field 0

/-- The expression that a term stands for. -/
def regexFor (r : Runner) : Nat → Term → Work Regex
  | 0, _ => return .empty
  | limit + 1, t => do
    match t with
    | .regex e => return e
    | _ => regexOf (← textOf (← valueOf r limit t))

def callRoutine (r : Runner) : Nat → String → List Term → Work Value
  | 0, _, _ => return .unset
  | limit + 1, name, arguments => do
    match (← get).program.routine? name with
    | none => return .unset
    | some f =>
      let slots ← arguments.mapM fun (t : Term) => do
        match t with
        | .name n => slotOf n
        | _ => return .value (← valueOf r limit t)
      let before := (← get).arguments
      let frame := slots ++ List.replicate (f.size - slots.length) default
      modify fun m => { m with arguments := frame.toArray }
      let result ← tryCatch (do
          carryOut r limit f.body
          return Value.unset)
        fun
        | .giveBack v => return v
        | e => throw e
      modify fun m => { m with arguments := before }
      return result

def callBuiltin (r : Runner) : Nat → String → List Term → Work Value
  | 0, _, _ => return .unset
  | limit + 1, name, arguments => do
    let value := valueOf r limit
    match name, arguments with
    | "length", [.name n] => lengthOf n
    | "length", [t] => return .ofNat (← textOf (← value t)).length
    | "match", [t, pattern] =>
      let text ← textOf (← value t)
      Functions.matchIn (← regexFor r limit pattern) text
    | "split", [t, .name table] =>
      let text ← textOf (← value t)
      Functions.splitInto (← tableOf table) (← get).separator text
    | "split", [t, .name table, .regex e] =>
      let text ← textOf (← value t)
      Functions.splitInto (← tableOf table) (.pattern e) text
    | "split", [t, .name table, by'] =>
      let text ← textOf (← value t)
      let s ← separatorOf (← textOf (← value by'))
      Functions.splitInto (← tableOf table) s text
    | "sub", [pattern, t, target] => replaceIn r limit false pattern t target
    | "gsub", [pattern, t, target] => replaceIn r limit true pattern t target
    | _, _ => Functions.call r name (← arguments.mapM value)

/-- Replaces what matches in a place, all of it or the first; how often. -/
def replaceIn (r : Runner) : Nat → Bool → Term → Term → Term → Work Value
  | 0, _, _, _, _ => return .unset
  | limit + 1, all, pattern, t, target => do
    let e ← regexFor r limit pattern
    let l := Substitute.ofText (← textOf (← valueOf r limit t))
    let p ← placeOf r limit target
    let (text, count) := Substitute.replace all e l (← textOf (← p.load))
    if 0 < count then p.save (.text text)
    return .ofNat count

def carryOut (r : Runner) : Nat → Statement → Work Unit
  | 0, _ => return ()
  | limit + 1, s => do
    let value := valueOf r limit
    let isTrue := fun (a : Term) => do return (← value a).isTrue
    match s with
    | .nothing => return ()
    | .evaluate a =>
      let _ ← value a
    | .print items target =>
      let texts ←
        if items.isEmpty then pure [← printed (← get).record]
        else items.mapM fun (a : Term) => do printed (← value a)
      let way ← wayOf r limit target
      let text := (← textNamed "OFS").intercalate texts ++ (← textNamed "ORS")
      deliver way text
    | .format items target =>
      let values ← items.mapM value
      let way ← wayOf r limit target
      match values with
      | [] => return ()
      | f :: rest =>
        let format ← textOf f
        let (text, fault?) := Value.layOut (← get).format format rest
        deliver way text
        if let some e := fault? then fault (e.message ++ " printf(\"" ++ format ++ "\")")
    | .block body => body.forM (carryOut r limit)
    | .choose c yes no =>
      if ← isTrue c then carryOut r limit yes
      else
        match no with
        | some s => carryOut r limit s
        | none => return ()
    | .repeatWhile c body => turns r limit (some c) body none
    | .doWhile body c =>
      if ← turn r limit body then turns r limit (some c) body none
    | .loop start c step body =>
      if let some a := start then
        let _ ← value a
      turns r limit c body step
    | .forKeys place table body =>
      let t ← tableOf table
      forAll r limit place body (← onTable t Table.keys)
    | .stopLoop => throw .stopLoop
    | .nextTurn => throw .nextTurn
    | .nextRecord => throw .nextRecord
    | .nextFile => throw .nextFile
    | .exit status =>
      if let some a := status then
        let v ← value a
        modify fun m => { m with status := statusOf v }
      throw .exit
    | .giveBack a =>
      match a with
      | some a => throw (.giveBack (← value a))
      | none => throw (.giveBack .unset)
    | .delete table keys =>
      let t ← tableOf table
      match keys with
      | none => onTable t fun _ => ((), {})
      | some l =>
        let k ← keyOf (← l.mapM value)
        onTable t fun t => ((), t.erase k)

def wayOf (r : Runner) : Nat → Option Target → Work (Option (Way × String))
  | 0, _ => return none
  | limit + 1, target => do
    match target with
    | none => return none
    | some (.file a) => return some (.file false, ← textOf (← valueOf r limit a))
    | some (.fileEnd a) => return some (.file true, ← textOf (← valueOf r limit a))
    | some (.command a) => return some (.command, ← textOf (← valueOf r limit a))

/-- Carries out a statement as a turn of a loop; whether the loop goes on. -/
def turn (r : Runner) : Nat → Statement → Work Bool
  | 0, _ => return false
  | limit + 1, body =>
    tryCatch (do
        carryOut r limit body
        return true)
      fun
      | .stopLoop => return false
      | .nextTurn => return true
      | e => throw e

/-- Turns of a loop as long as a condition holds, with a step behind each. -/
def turns (r : Runner) : Nat → Option Term → Statement → Option Term → Work Unit
  | 0, _, _, _ => return ()
  | limit + 1, c, body, step => do
    let holds ←
      match c with
      | some a => pure (← valueOf r limit a).isTrue
      | none => pure true
    if holds then
      if ← turn r limit body then
        if let some a := step then
          let _ ← valueOf r limit a
        turns r limit c body step

def forAll (r : Runner) : Nat → Name → Statement → List String → Work Unit
  | 0, _, _, _ => return ()
  | _, _, _, [] => return ()
  | limit + 1, place, body, k :: rest => do
    save place (.text k)
    if ← turn r limit body then forAll r limit place body rest

end

/-- How deep terms and statements may be nested, with the turns of loops. -/
def depth : Nat := 1000000000000

def act (r : Runner) (rule : Rule) : Work Unit := do
  match rule.action with
  | some s => carryOut r depth s
  | none => carryOut r depth (.print [] none)

/-- Whether a rule of a number applies to the record. -/
def applies (r : Runner) (number : Nat) : Pattern → Work Bool
  | .always => return true
  | .when c => do return (← valueOf r depth c).isTrue
  | .between first last => do
    let isWithin := (← get).within.contains number
    let starts ← if isWithin then pure true else pure (← valueOf r depth first).isTrue
    if starts then
      let ends := (← valueOf r depth last).isTrue
      modify fun m =>
        let others := m.within.filter (· != number)
        { m with within := if ends then others else number :: others }
    return starts
  | _ => return false

def applyRules (r : Runner) (rules : List (Nat × Rule)) : Work Unit :=
  tryCatch
    (rules.forM fun (number, rule) => do if ← applies r number rule.pattern then act r rule)
    fun
    | .nextRecord => return ()
    | .nextFile => modify fun m => { m with main := none }
    | e => throw e

/-- Applies all rules to every record. -/
def workThrough (r : Runner) (rules : List (Nat × Rule)) : Nat → Work Unit
  | 0 => return ()
  | limit + 1 => do
    match ← nextMain with
    | none => return ()
    | some text =>
      setRecord (.input text)
      applyRules r rules
      workThrough r rules limit

/-- Runs work that may end the program early. -/
def untilExit (work : Work Unit) : Work Unit :=
  tryCatch work fun
    | .exit => return ()
    | .fault message => throw (.fault message)
    | _ => return ()

def run (r : Runner) : Work Unit := do
  let rules := (← get).program.rules
  let numbered := (List.range rules.length).zip rules
  let starts := rules.filter fun rule => rule.pattern matches .atStart
  let ends := rules.filter fun rule => rule.pattern matches .atEnd
  let others := numbered.filter fun (_, rule) =>
    !(rule.pattern matches .atStart) && !(rule.pattern matches .atEnd)
  untilExit do
    starts.forM (act r)
    if !others.isEmpty ∨ !ends.isEmpty then workThrough r others depth
  untilExit (ends.forM (act r))

end WasmBundle.Shell.Actions.Evaluation
