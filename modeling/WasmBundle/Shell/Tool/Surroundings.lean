import WasmBundle.Shell.Tool.Lines

/-!
# What programs run on and for whom

Tools that tell of the system and of the user, who is the only one. Nobody sits at a terminal.
-/

namespace WasmBundle.Shell.Surroundings

open Running Tool

def userName : String := "root"

/-- A tool without operands that prints a text. -/
def telling (text : String) : Tool :=
  withOptions {} 1 fun _ name i => do
    match i.operands with
    | extra :: _ => misuse name ("extra operand " ++ quotedText extra) 1
    | [] =>
      print (text ++ "\n")
      return 0

def showUser : Tool := telling userName

def showMachine : Tool := telling "x86_64"

/-- Tells the name under which one logged in, which nobody did. -/
def showLogin : Tool :=
  withOptions {} 1 fun _ name i => do
    match i.operands with
    | extra :: _ => misuse name ("extra operand " ++ quotedText extra) 1
    | [] => complain name "no login name"

/-- Tells the terminal, which there is none of. -/
def showTerminal : Tool :=
  withOptions
    { flags := ['s'], long := [("silent", 's'), ("quiet", 's')] } 2
    fun _ name i => do
      match i.operands with
      | extra :: _ => misuse name ("extra operand " ++ quotedText extra) 2
      | [] =>
        if !i.has 's' then print "not a tty\n"
        return 1

/-- The facts about the system in the order in which they are told, each with its letter. -/
def systemFacts : List (Char × String) :=
  [('s', "Linux"), ('n', "localhost"), ('r', "6.1.0"), ('v', "#1 SMP"), ('m', "x86_64"),
    ('p', "x86_64"), ('i', "x86_64"), ('o', "GNU/Linux")]

def showSystem : Tool :=
  withOptions
    { flags := 'a' :: systemFacts.map (·.1)
      long := [("all", 'a'), ("kernel-name", 's'), ("sysname", 's'), ("nodename", 'n'),
        ("kernel-release", 'r'), ("release", 'r'), ("kernel-version", 'v'), ("machine", 'm'),
        ("processor", 'p'), ("hardware-platform", 'i'), ("operating-system", 'o')] } 1
    fun _ name i => do
      match i.operands with
      | extra :: _ => misuse name ("extra operand " ++ quotedText extra) 1
      | [] =>
        let isAsked := fun (c : Char) => i.has c || i.has 'a' || (i.options.isEmpty && c == 's')
        let facts := systemFacts.filter fun f => isAsked f.1
        print (" ".intercalate (facts.map (·.2)) ++ "\n")
        return 0

/-- Whether a word names the user, by name or by number. -/
def namesUser (word : String) : Bool := word = userName ∨ Numeral.count? word = some 0

def userFact (i : Invocation) : String :=
  if i.has 'u' ∨ i.has 'g' ∨ i.has 'G' then if i.has 'n' then userName else "0"
  else
    let one := "0(" ++ userName ++ ")"
    "uid=" ++ one ++ " gid=" ++ one ++ " groups=" ++ one

def showIdentity : Tool :=
  withOptions
    { flags := ['a', 'g', 'G', 'n', 'r', 'u', 'z', 'Z']
      long := [("group", 'g'), ("groups", 'G'), ("name", 'n'), ("real", 'r'), ("user", 'u'),
        ("zero", 'z'), ("context", 'Z')] } 1
    fun _ name i => do
      let choices := ['u', 'g', 'G'].filter i.has
      if i.has 'Z' then complain name "--context (-Z) works only on an SELinux-enabled kernel"
      else if 1 < choices.length then complain name "cannot print \"only\" of more than one choice"
      else if choices.isEmpty ∧ (i.has 'n' ∨ i.has 'r') then
        complain name "cannot print only names or real IDs in default format"
      else if choices.isEmpty ∧ i.has 'z' then
        complain name "option --zero not permitted in default format"
      else
        let ending := if i.has 'z' then String.ofList [Char.ofNat 0] else "\n"
        let tell := print (userFact i ++ ending)
        if i.operands.isEmpty then
          tell
          return 0
        else
          forEach (fun (word : String) => do
              if namesUser word then
                tell
                return 0
              else complain name (quotedText word ++ ": no such user"))
            i.operands

def showGroups : Tool :=
  withOptions {} 1 fun _ name i => do
    if i.operands.isEmpty then
      print (userName ++ "\n")
      return 0
    else
      forEach (fun (word : String) => do
          if word = userName then
            print (word ++ " : " ++ userName ++ "\n")
            return 0
          else complain name (quotedText word ++ ": no such user"))
        i.operands

end WasmBundle.Shell.Surroundings
