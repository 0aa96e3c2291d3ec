import WasmBundle.Shell.Tool.Operand
import WasmBundle.Shell.Tool.Size

/-!
# Copying by blocks

The tool whose operands are settings: what is read and written, in blocks of a size, how much is
left out, and how bytes are changed on the way. Input behind the last block is left to others.
-/

namespace WasmBundle.Shell.Tool.Blocks

open Running

/-- The settings, each with its value; the last one of a name counts. -/
abbrev Settings := List (String × String)

def conversions : List String :=
  ["notrunc", "ucase", "lcase", "swab", "sync", "noerror", "excl", "nocreat", "fsync", "fdatasync",
    "block", "unblock", "sparse", "ascii", "ebcdic", "ibm"]

def readFlags : List String :=
  ["skip_bytes", "count_bytes", "fullblock", "append", "seek_bytes", "direct", "nonblock", "sync",
    "dsync", "nofollow", "binary", "text", "nocache", "noatime", "directory", "noctty"]

def counts : List String := ["bs", "ibs", "obs", "cbs", "count", "skip", "seek", "iseek", "oseek"]

/-- The words of a setting that are separated by commas. -/
def words (s : Settings) (name : String) : List String :=
  ((s.lookup name).map fun text =>
    (splitAtSeparator ',' text.toList).map String.ofList).getD []

def fault? (name value : String) : Option (String × Bool) :=
  let refused := fun (known : List String) (title : String) =>
    ((splitAtSeparator ',' value.toList).map String.ofList).find?
      (fun w => !known.contains w) |>.map
      fun w => ("invalid " ++ title ++ ": " ++ quotedText w, true)
  if counts.contains name then
    match Size.parse? true value with
    | none => some ("invalid number: " ++ quotedText value, false)
    | some 0 =>
      if name.toList.drop (name.length - 2) = ['b', 's'] then
        some ("invalid number: " ++ quotedText value, false)
      else none
    | some _ => none
  else
    match name with
    | "if" => none
    | "of" => none
    | "conv" => refused conversions "conversion"
    | "iflag" => refused readFlags "input flag"
    | "oflag" => refused readFlags "output flag"
    | "status" =>
      if ["none", "noxfer", "progress"].contains value then none
      else some ("invalid status level: " ++ quotedText value, true)
    | _ => some ("unrecognized operand " ++ quotedText (name ++ "=" ++ value), true)

/-- The pairs of bytes with their places changed. -/
def swapped : Bytes → Bytes
  | a :: b :: rest => b :: a :: swapped rest
  | l => l

def converted (names : List String) (size : Nat) (b : Bytes) : Bytes :=
  let upper := fun (x : UInt8) => if 97 ≤ x ∧ x ≤ 122 then x - 32 else x
  let lower := fun (x : UInt8) => if 65 ≤ x ∧ x ≤ 90 then x + 32 else x
  let missing := (size - b.length % size) % size
  let b := if names.contains "sync" then b ++ List.replicate missing 0 else b
  let b := if names.contains "swab" then swapped b else b
  if names.contains "ucase" then b.map upper
  else if names.contains "lcase" then b.map lower
  else b

/-- A size in units of 1000 or 1024, with at most one decimal. -/
def inUnits (base n : Nat) (ending : String) (units : List String) : Option String :=
  let rec go : Nat → List String → Option String
    | _, [] => none
    | unit, letter :: rest =>
      if n < unit * base ∨ rest.isEmpty then
        let tenths := (n * 10 + unit / 2) / unit
        let text :=
          if tenths < 100 then toString (tenths / 10) ++ "." ++ toString (tenths % 10)
          else toString ((n + unit / 2) / unit)
        some (text ++ " " ++ letter ++ ending)
      else go (unit * base) rest
  if n < base then none else go base units

/-- What is told of the bytes that were copied. -/
def amount (n : Nat) : String :=
  let start := toString n ++ if n = 1 then " byte" else " bytes"
  match inUnits 1000 n "B" ["k", "M", "G", "T"], inUnits 1024 n "iB" ["K", "M", "G", "T"] with
  | some a, some b => start ++ " (" ++ a ++ ", " ++ b ++ ")"
  | some a, none => start ++ " (" ++ a ++ ")"
  | _, _ => start

/-- Puts the bytes where the settings say. -/
def deliver (name : String) (s : Settings) (place : Nat) (b : Bytes) : Running Nat := do
  match s.lookup "of" with
  | none =>
    match ← write 1 b with
    | .ok () => return 0
    | .error e =>
      complain name ("error writing " ++ quotedPath "standard output" ++ ": " ++ e.reason)
  | some target =>
    let refuse := fun (e : IoError) =>
      complain name ("failed to open " ++ quotedPath target ++ ": " ++ e.reason)
    let before ← onDisk (OnDisk.read (pathOf target))
    let names := words s "conv"
    let old :=
      match before with
      | .ok x => x
      | .error _ => []
    match before, names.contains "excl", names.contains "nocreat" with
    | .ok _, true, _ => refuse .alreadyExists
    | .error e, _, true => refuse e
    | _, _, _ =>
      let place := if (words s "oflag").contains "append" then old.length else place
      let kept := if names.contains "notrunc" then old else old.take place
      let isDevice := (Channels.deviceDescriptor? target).isSome
      match ← writeTo target (if isDevice then b else overlay kept place b) with
      | .ok () => return 0
      | .error .noSpace =>
        complain name ("error writing " ++ quotedPath target ++ ": " ++ IoError.noSpace.reason)
      | .error e => refuse e

def copyWith (name : String) (s : Settings) : Running Nat := do
  let count := fun (key : String) => (s.lookup key).bind (Size.parse? true)
  let size := fun (key : String) => ((count "bs").or (count key)).getD 512
  let (ibs, obs) := (size "ibs", size "obs")
  let flags := words s "iflag"
  let source := (s.lookup "if").getD "-"
  let skip := ((count "skip").or (count "iseek")).getD 0 *
    (if flags.contains "skip_bytes" then 1 else ibs)
  let most := (count "count").map (· * (if flags.contains "count_bytes" then 1 else ibs))
  let place := ((count "seek").or (count "oseek")).getD 0 *
    (if (words s "oflag").contains "seek_bytes" then 1 else obs)
  let conv := words s "conv"
  let records := fun (unit n : Nat) =>
    toString (n / unit) ++ "+" ++ (if n % unit = 0 then "0" else "1") ++ " records "
  let report := fun (taken given : Nat) => do
    let level := s.lookup "status"
    if level ≠ some "none" then
      let last := amount given ++ " copied, 0.0001 s, 0.0 kB/s\n"
      printError (records ibs taken ++ "in\n" ++ records obs given ++ "out\n" ++
        (if level = some "noxfer" then "" else last))
  match ← contentUpTo (skip + most.getD 0) source with
  | .error .isDirectory =>
    let status ← complain name ("error reading " ++ quotedPath source ++ ": " ++
      IoError.isDirectory.reason)
    report 0 0
    return status
  | .error e =>
    let title := if source = "-" then "standard input" else source
    complain name ("failed to open " ++ quotedPath title ++ ": " ++ e.reason)
  | .ok all =>
    if source = "-" then giveBack 0 ((most.map (all.drop skip).drop).getD [])
    if all.length < skip ∧ skip ≠ 0 then
      let title := if source = "-" then quotedPath "standard input" else shownPath source
      printError (name ++ ": " ++ title ++ ": cannot skip to specified offset\n")
    let b := all.drop skip
    let b := (most.map b.take).getD b
    let made := converted conv ibs b
    match ← deliver name s place made with
    | 0 =>
      report b.length made.length
      return 0
    | status => return status

def copy : Tool := fun _ name operands => do
  let options := operands.filter fun o => o.toList.head? = some '-' ∧ o ≠ "--"
  match Invocation.read {} options with
  | .error e => misuse name e.message 1
  | .ok _ =>
    let settings := (operands.filter (· ≠ "--")).map fun o =>
      let key := o.toList.takeWhile (· ≠ '=')
      (String.ofList key, String.ofList (o.toList.drop (key.length + 1)), o)
    let faultOf := fun (e : String × String × String) =>
      if e.2.2.toList.contains '=' then fault? e.1 e.2.1
      else some ("unrecognized operand " ++ quotedText e.2.2, true)
    match settings.findSome? faultOf with
    | some (text, true) => misuse name text 1
    | some (text, false) => complain name text
    | none => copyWith name (settings.map fun e => (e.1, e.2.1)).reverse

end WasmBundle.Shell.Tool.Blocks
