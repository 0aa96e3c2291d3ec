import WasmBundle.Shell.Dates
import WasmBundle.Shell.Format
import WasmBundle.Shell.Mode
import WasmBundle.Shell.Tool.Operand

/-!
# What is known of files

The facts about what stands in a directory: its kind, its mode, its size and when it was changed.
Everything belongs to one user. A tool tells what is known of files, in a format.
-/

namespace WasmBundle.Shell.Tool

open Running

def ownerName : String := "root"

structure Fact where
  location : Location
  entry : Entry
  mode : Nat
  /-- When it was last changed, in nanoseconds. -/
  time : Int
  size : Nat
  /-- How many names it has. -/
  names : Nat
  isDevice : Bool := false

namespace Fact

def directorySize : Nat := 4096

def ofEntry (d : Disk) (l : Location) (e : Entry) : Fact :=
  match e with
  | .directory a =>
    let below := (((d.tree.at? l).map Tree.children).getD []).filter fun x =>
      x.2.entry matches .directory _
    { location := l, entry := e, mode := a.mode, time := a.time, size := directorySize,
      names := below.length + 2 }
  | .file n =>
    let f := (d.files[n]?).getD {}
    { location := l, entry := e, mode := f.attributes.mode, time := f.attributes.time,
      size := f.content.length, names := (d.entries.filter (·.2 == .file n)).length,
      isDevice := f.kind != .regular }
  | .link target =>
    { location := l, entry := e, mode := 0o777, time := d.clock,
      size := target.bytes.length, names := 1 }

def kindLetter (f : Fact) : Char :=
  match f.entry with
  | .directory _ => 'd'
  | .link _ => 'l'
  | .file _ => if f.isDevice then 'c' else '-'

def modeText (f : Fact) : String := String.ofList [f.kindLetter] ++ Mode.shown f.mode

/-- The space that it takes, in blocks of 1024 bytes. -/
def blocks (f : Fact) : Nat :=
  match f.entry with
  | .link _ => 0
  | _ => (f.size + 4095) / 4096 * 4

def seconds (f : Fact) : Int := Int.fdiv f.time 1000000000

end Fact

/-- What is known of what a path names, or leads to. -/
def factAt (follows : Bool) (path : String) : Running (Except IoError Fact) := do
  match ← if follows then entryBehind path else entryOf path with
  | .ok (l, e) => return .ok (.ofEntry (← disk) l e)
  | .error e => return .error e

def twoDigits (n : Nat) : String := Format.padded false '0' 2 (toString n)

/-- A date and a time of day, with the parts of the second. -/
def fullTime (time : Int) : String :=
  let m := Calendar.moment (Int.fdiv time 1000000000)
  let rest := (time - Int.fdiv time 1000000000 * 1000000000).toNat
  toString m.year ++ "-" ++ twoDigits m.month ++ "-" ++ twoDigits m.day ++ " " ++
    twoDigits m.hour ++ ":" ++ twoDigits m.minute ++ ":" ++ twoDigits m.second ++ "." ++
    Format.padded false '0' 9 (toString rest) ++ " +0000"

/-- What a letter stands for in the format of facts. -/
def factText (path : String) (f : Fact) (letter : Char) : String :=
  match letter with
  | 'n' => path
  | 'N' =>
    match f.entry with
    | .link target => quotedPath path ++ " -> " ++ quotedPath (ofOctets target.bytes)
    | _ => quotedPath path
  | 's' => toString f.size
  | 'a' => Mode.octal 1 f.mode
  | 'A' => f.modeText
  | 'F' =>
    match f.kindLetter with
    | 'd' => "directory"
    | 'l' => "symbolic link"
    | 'c' => "character special file"
    | _ => if f.size = 0 then "regular empty file" else "regular file"
  | 'h' => toString f.names
  | 'i' =>
    match f.entry with
    | .file n => toString (n + 1)
    | _ => "1"
  | 'u' => "0"
  | 'g' => "0"
  | 'U' => ownerName
  | 'G' => ownerName
  | 'b' => toString (f.blocks * 2)
  | 'B' => "512"
  | 'o' => "4096"
  | 'm' => "/"
  | 'd' => "1"
  | 'D' => "1"
  | 't' => if f.isDevice then "1" else "0"
  | 'T' => if f.isDevice then "3" else "0"
  | 'w' => "-"
  | 'W' => "0"
  | 'f' =>
    let kind :=
      match f.kindLetter with
      | 'd' => 0o040000
      | 'l' => 0o120000
      | 'c' => 0o020000
      | _ => 0o100000
    String.ofList (Nat.toDigits 16 (kind + f.mode))
  | 'X' => toString f.seconds
  | 'Y' => toString f.seconds
  | 'Z' => toString f.seconds
  | 'x' => fullTime f.time
  | 'y' => fullTime f.time
  | 'z' => fullTime f.time
  | _ => "?"

/-- Facts in a format, where letters behind percent signs stand for them. -/
def factsShown (path : String) (f : Fact) : Nat → List Char → List Char
  | 0, _ => []
  | limit + 1, cs =>
    match cs with
    | [] => []
    | '%' :: '%' :: rest => '%' :: factsShown path f limit rest
    | '%' :: rest =>
      let flags := rest.takeWhile ['-', '0', '#', '+', ' '].contains
      let digits := (rest.drop flags.length).takeWhile Char.isDigit
      match rest.drop (flags.length + digits.length) with
      | [] => '%' :: rest
      | c :: others =>
        let fill := if flags.contains '0' ∧ !flags.contains '-' then '0' else ' '
        let text := factText path f c
        (Format.padded (flags.contains '-') fill (Numeral.ofDigits 10 digits) text).toList ++
          factsShown path f limit others
    | c :: rest => c :: factsShown path f limit rest

/-- The format of facts that are told in full. -/
def usualFacts : String :=
  "  File: %n\n  Size: %-10s\tBlocks: %-10b IO Block: %-6o %F\n" ++
    "Device: %d\tInode: %-11i Links: %h\n" ++
    "Access: (%04a/%A)  Uid: (%5u/%8U)   Gid: (%5g/%8G)\n" ++
    "Access: %x\nModify: %y\nChange: %z\n Birth: %w"

def tellFacts : Tool :=
  withOptions
    { flags := ['L', 't', 'f'], valued := ['c', 'P'],
      long := [("dereference", 'L'), ("format", 'c'), ("printf", 'P'), ("terse", 't')] } 1
    fun _ name i => do
      if i.operands.isEmpty then misuse name "missing operand" 1
      else
        let format :=
          match i.value? 'P', i.value? 'c' with
          | some text, _ => String.ofList (Format.unescaped text).1
          | none, some text => text ++ "\n"
          | none, none =>
            if i.has 't' then "%n %s %b %f %u %g %D %i %h %t %T %X %Y %Z %W %o\n"
            else usualFacts ++ "\n"
        forEach (fun path => do
          match ← factAt (i.has 'L') path with
          | .error e => complain name ("cannot statx " ++ quotedPath path ++ ": " ++ e.reason)
          | .ok f =>
            print (String.ofList (factsShown path f (format.length + 1) format.toList))
            return 0) i.operands

end WasmBundle.Shell.Tool
