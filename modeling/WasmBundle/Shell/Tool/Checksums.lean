import WasmBundle.Shell.Digest
import WasmBundle.Shell.Tool.Lines

/-!
# Digests of files

Tools that print the digests of files, or check files against digests that are listed.
-/

namespace WasmBundle.Shell.Checksums

open Running Tool

/-- A digest that a tool prints in base sixteen. -/
structure Method where
  /-- What a tagged line begins with. -/
  tag : String
  /-- How many bytes the digest has. -/
  size : Nat
  digest : Bytes → Bytes

def md5 : Method := { tag := "MD5", size := 16, digest := Digest.four }
def sha1 : Method := { tag := "SHA1", size := 20, digest := Digest.five }
def sha224 : Method := { tag := "SHA224", size := 28, digest := Digest.Variant.narrowShort.digest }
def sha256 : Method := { tag := "SHA256", size := 32, digest := Digest.Variant.narrow.digest }
def sha384 : Method := { tag := "SHA384", size := 48, digest := Digest.Variant.wideShort.digest }
def sha512 : Method := { tag := "SHA512", size := 64, digest := Digest.Variant.wide.digest }

def hexText (b : Bytes) : String :=
  String.ofList (b.flatMap fun x =>
    [Nat.digitChar (x.toNat / 16), Nat.digitChar (x.toNat % 16)])

/-- A file's name with its line ends and backslashes as escapes. -/
def escapedName (name : String) : String :=
  String.ofList (name.toList.flatMap fun c =>
    match c with
    | '\n' => ['\\', 'n']
    | '\r' => ['\\', 'r']
    | '\\' => ['\\', '\\']
    | _ => [c])

/-- A name without its escapes, if each of them means something. -/
def unescapedName : List Char → Option (List Char)
  | '\\' :: c :: rest => do
    let plain ← [('n', '\n'), ('r', '\r'), ('\\', '\\')].lookup c
    return plain :: (← unescapedName rest)
  | ['\\'] => none
  | c :: rest => (unescapedName rest).map (c :: ·)
  | [] => some []

structure Layout where
  tagged : Bool
  binary : Bool
  /-- Whether a null character ends lines, and names stand as they are. -/
  plain : Bool

def Layout.line (y : Layout) (m : Method) (name : String) (b : Bytes) : String :=
  let shown := if y.plain then name else escapedName name
  let start := if shown = name then "" else "\\"
  let text := hexText (m.digest b)
  start ++
    (if y.tagged then m.tag ++ " (" ++ shown ++ ") = " ++ text
    else text ++ (if y.binary then " *" else "  ") ++ shown) ++
    (if y.plain then String.ofList [Char.ofNat 0] else "\n")

def isHex (size : Nat) (cs : List Char) : Bool :=
  cs.length == 2 * size && cs.all (Numeral.isDigitOf 16)

/-- The digest and the name in a tagged line, behind its tag. -/
def tagged? (m : Method) (cs : List Char) : Option (List Char × List Char) :=
  let digest := (cs.reverse.takeWhile fun c => !isBlank c && c != '=').reverse
  let before := (cs.take (cs.length - digest.length)).reverse.dropWhile isBlank
  match before with
  | '=' :: rest =>
    match rest.dropWhile isBlank with
    | ')' :: name => if isHex m.size digest then some (digest, name.reverse) else none
    | _ => none
  | _ => none
where
  isBlank (c : Char) : Bool := c = ' ' ∨ c = '\t'

/-- The digest in small letters and the name that a line lists. -/
def listed? (m : Method) (line : List Char) : Option (String × String) := do
  let blank := fun (c : Char) => c = ' ' || c = '\t'
  let cs := line.dropWhile blank
  let isEscaped := cs.head? = some '\\'
  let cs := if isEscaped then cs.drop 1 else cs
  let (digest, name) ←
    if m.tag.toList.isPrefixOf cs then
      let rest := cs.drop m.tag.length
      match if rest.head? = some ' ' then rest.drop 1 else rest with
      | '(' :: inner => tagged? m inner
      | _ => none
    else
      let digest := cs.take (2 * m.size)
      match cs.drop (2 * m.size) with
      | gap :: sign :: name =>
        if !(blank gap && isHex m.size digest) then none
        else if (sign = ' ' ∨ sign = '*') ∧ !name.isEmpty then some (digest, name)
        else some (digest, sign :: name)
      | _ => none
  let name ← if isEscaped then unescapedName name else some name
  return (String.ofList (digest.map Char.toLower), String.ofList name)

/-- Prints a line for each input that can be read. -/
def printEach (name : String) (operands : List String) (line : String → Bytes → String) :
    Running Nat :=
  forEach (fun o => do
    match ← contentOf o with
    | .ok b =>
      print (line o b)
      return 0
    | .error e => complain name (shownPath o ++ ": " ++ e.reason)) (inputs operands)

/-- What is told while files are checked. -/
structure Reports where
  quiet : Bool
  silent : Bool
  strict : Bool
  warns : Bool
  ignoresMissing : Bool

structure Tally where
  listed : Nat := 0
  malformed : Nat := 0
  unread : Nat := 0
  different : Nat := 0
  same : Nat := 0

/-- A count with what is counted, in the words for one or for more. -/
def counted (n : Nat) (one more : String) : String :=
  toString n ++ " " ++ (if n = 1 then one else more)

def checkLine (tool title : String) (m : Method) (r : Reports) (t : Tally)
    (line : List Char × Nat) : Running Tally := do
  let tell := fun (name text : String) => do
    let shown := escapedName name
    if !r.silent then print ((if shown = name then "" else "\\") ++ shown ++ ": " ++ text ++ "\n")
  match listed? m line.1 with
  | none =>
    if r.warns then
      printError (tool ++ ": " ++ title ++ ": " ++ toString line.2 ++ ": improperly formatted " ++
        m.tag ++ " checksum line\n")
    return { t with malformed := t.malformed + 1 }
  | some (digest, name) =>
    let t := { t with listed := t.listed + 1 }
    match ← contentOf name with
    | .error e =>
      if r.ignoresMissing && e == .noEntry then return t
      else
        let _ ← complain tool (shownPath name ++ ": " ++ e.reason)
        tell name "FAILED open or read"
        return { t with unread := t.unread + 1 }
    | .ok b =>
      if hexText (m.digest b) = digest then
        if !r.quiet then tell name "OK"
        return { t with same := t.same + 1 }
      else
        tell name "FAILED"
        return { t with different := t.different + 1 }

/-- The lines of a list that count, with their numbers. -/
def linesOf (b : Bytes) : List (List Char × Nat) :=
  let lines := (closedLines (chars b)).zipIdx.map fun (l, n) =>
    let l := withoutEnd l
    (if l.getLast? = some '\r' then l.dropLast else l, n + 1)
  lines.filter fun (l, _) => !l.isEmpty && l.head? != some '#'

def checkList (tool : String) (m : Method) (r : Reports) (operand : String) : Running Nat := do
  match ← contentOf operand with
  | .error e => complain tool (shownPath operand ++ ": " ++ e.reason)
  | .ok b =>
    let title := if operand = "-" then quoted "standard input" else shownPath operand
    let t ← (linesOf b).foldlM (checkLine tool title m r) {}
    let say := fun (text : String) => printError (tool ++ ": " ++ text ++ "\n")
    if t.listed = 0 then
      say (title ++ ": no properly formatted checksum lines found")
      return 1
    else
      if !r.silent then
        if t.malformed > 0 then
          say ("WARNING: " ++ counted t.malformed "line is improperly formatted"
            "lines are improperly formatted")
        if t.unread > 0 then
          say ("WARNING: " ++ counted t.unread "listed file could not be read"
            "listed files could not be read")
        if t.different > 0 then
          say ("WARNING: " ++ counted t.different "computed checksum did NOT match"
            "computed checksums did NOT match")
        if r.ignoresMissing ∧ t.same + t.different = 0 then say (title ++ ": no file was verified")
      let isGood := t.same > 0 && t.different == 0 && t.unread == 0 &&
        (!r.strict || t.malformed == 0)
      return if isGood then 0 else 1

/-- The options that mean something only where files are checked. -/
def checkingOptions : List (String × Char) :=
  [("ignore-missing", 'μ'), ("status", 'σ'), ("warn", 'w'), ("quiet", 'κ'), ("strict", 'τ')]

def options : OptionTable where
  flags := ['b', 'c', 't', 'w', 'z', 'μ', 'σ', 'κ', 'τ', 'γ']
  long := checkingOptions ++
    [("binary", 'b'), ("check", 'c'), ("tag", 'γ'), ("text", 't'), ("zero", 'z')]

def conflict? (i : Invocation) : Option String :=
  let checks := i.has 'c'
  if i.has 'γ' ∧ checks then
    some "the --tag option is meaningless when verifying checksums"
  else if i.has 'z' ∧ checks then
    some "the --zero option is not supported when verifying checksums"
  else if checks ∧ (i.has 'b' || i.has 't') then
    some "the --binary and --text options are meaningless when verifying checksums"
  else if checks then none
  else
    (checkingOptions.find? fun o => i.has o.2).map fun o =>
      "the --" ++ o.1 ++ " option is meaningful only when verifying checksums"

def reports (i : Invocation) : Reports where
  quiet := i.has 'κ'
  silent := i.has 'σ'
  strict := i.has 'τ'
  warns := i.has 'w'
  ignoresMissing := i.has 'μ'

/-- Whether the last of two options is the first of them. -/
def prevails (i : Invocation) (c other : Char) : Bool :=
  ((i.options.filter fun o => o.1 == c || o.1 == other).getLast?.map (·.1)) == some c

def digestFiles (m : Method) : Tool :=
  withOptions options 1 fun _ name i => do
    match conflict? i with
    | some text => misuse name text 1
    | none =>
      if i.has 'c' then forEach (checkList name m (reports i)) (inputs i.operands)
      else
        let y : Layout :=
          { tagged := i.has 'γ', binary := prevails i 'b' 't', plain := i.has 'z' }
        printEach name i.operands (y.line m)

/-- How a sum is shown, with the number of blocks or bytes. -/
inductive Sum where
  | remainder
  | turning
  | plain
  deriving DecidableEq, Repr

def Sum.text (s : Sum) (b : Bytes) : String :=
  let blocks := fun (size : Nat) => (b.length + size - 1) / size
  match s with
  | .remainder => toString (Digest.remainder b) ++ " " ++ toString b.length
  | .turning =>
    Format.padded false '0' 5 (toString (Digest.turningSum b)) ++ " " ++
      Format.padded false ' ' 5 (toString (blocks 1024))
  | .plain => toString (Digest.plainSum b) ++ " " ++ toString (blocks 512)

/-- The sums of inputs; the name of one that no operand names is not shown. -/
def printSums (name : String) (s : Sum) (operands : List String) : Running Nat :=
  printEach name operands fun o b =>
    s.text b ++ (if operands.isEmpty then "" else " " ++ o) ++ "\n"

def sumFiles : Tool :=
  withOptions { flags := ['r', 's'], long := [("sysv", 's')] } 1 fun _ name i =>
    printSums name (if prevails i 's' 'r' then .plain else .turning) i.operands

def methods : List (List String × (Method ⊕ Sum)) :=
  [(["bsd"], .inr .turning), (["sysv"], .inr .plain), (["crc"], .inr .remainder),
    (["md5"], .inl md5), (["sha1"], .inl sha1), (["sha224"], .inl sha224),
    (["sha256"], .inl sha256), (["sha384"], .inl sha384), (["sha512"], .inl sha512)]

/-- The tool for sums and digests that are chosen by name. -/
def sumByName : Tool :=
  withOptions
    { options with
      flags := ['υ'] ++ options.flags
      valued := ['a']
      long := options.long ++ [("algorithm", 'a'), ("untagged", 'υ')] } 1
    fun _ name i => do
      match choice? "--algorithm" methods ((i.value? 'a').getD "crc"), conflict? i with
      | .error text, _ => misuse name text 1
      | _, some text => misuse name text 1
      | .ok (.inr s), none =>
        if i.has 'c' then
          if i.has 'a' then
            complain name "--check is not supported with --algorithm=\x7bbsd,sysv,crc\x7d"
          else return 1
        else printSums name s i.operands
      | .ok (.inl m), none =>
        if i.has 'c' then forEach (checkList name m (reports i)) (inputs i.operands)
        else
          let y : Layout := { tagged := !prevails i 'υ' 'γ', binary := false, plain := i.has 'z' }
          printEach name i.operands (y.line m)

end WasmBundle.Shell.Checksums
