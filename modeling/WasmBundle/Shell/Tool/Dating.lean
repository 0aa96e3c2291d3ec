import WasmBundle.Shell.DateReading
import WasmBundle.Shell.Dates
import WasmBundle.Shell.Tool.Operand

/-!
# Showing dates

The tool that tells the time, or another time that is named, in a format.
-/

namespace WasmBundle.Shell.Dating

open Running Tool

/-- How exactly dates are shown in the numeric notation. -/
def isoFormats : List (List String × String) :=
  [(["hours"], "%Y-%m-%dT%H%:z"), (["minutes"], "%Y-%m-%dT%H:%M%:z"), (["date"], "%Y-%m-%d"),
    (["seconds"], "%Y-%m-%dT%H:%M:%S%:z"), (["ns"], "%Y-%m-%dT%H:%M:%S,%N%:z")]

def spacedFormats : List (List String × String) :=
  [(["date"], "%Y-%m-%d"), (["seconds"], "%Y-%m-%d %H:%M:%S%:z"),
    (["ns"], "%Y-%m-%d %H:%M:%S.%N%:z")]

/-- The letter of an option that has a long name only. -/
def spacedLetter : Char := Char.ofNat 256

def resolutionLetter : Char := Char.ofNat 257

def options : OptionTable where
  flags := ['u', 'R', resolutionLetter]
  valued := ['d', 'f', 'r', 's', spacedLetter]
  optional := ['I']
  long := [("date", 'd'), ("file", 'f'), ("iso-8601", 'I'), ("rfc-email", 'R'), ("rfc-822", 'R'),
    ("rfc-2822", 'R'), ("reference", 'r'), ("set", 's'), ("utc", 'u'), ("universal", 'u'),
    ("uct", 'u'), ("rfc-3339", spacedLetter), ("resolution", resolutionLetter)]

def formatsOf (i : Invocation) : Except String (List String) :=
  i.options.filterMap (fun o =>
    match o.1 with
    | 'R' => some (.ok "%a, %d %b %Y %H:%M:%S %z")
    | 'I' => some (if o.2.isEmpty then .ok "%Y-%m-%d" else choice? "--iso-8601" isoFormats o.2)
    | c => if c = spacedLetter then some (choice? "--rfc-3339" spacedFormats o.2) else none)
  |>.mapM id

def usualFormat : String := "%a %b %e %H:%M:%S %Z %Y"

def showNamed (name format text : String) : Running Nat := do
  match Calendar.parse? (← disk).clock text with
  | some time =>
    print (Calendar.shownAs format time ++ "\n")
    return 0
  | none => complain name ("invalid date " ++ quotedText text)

/-- When what a path leads to was last changed. -/
def changeTime (path : String) : Running (Except IoError Int) := do
  match ← entryBehind path with
  | .error e => return .error e
  | .ok (_, .directory a) => return .ok a.time
  | .ok (_, .file n) => return .ok ((((← disk).files[n]?).getD {}).attributes.time)
  | .ok (_, .link _) => return .ok 0

/-- Shows what the options ask for in a format. -/
def showIn (name format : String) (i : Invocation) : Running Nat := do
  match i.value? 'd', i.value? 'f', i.value? 'r' with
  | some text, _, _ => showNamed name format text
  | none, some path, _ =>
    match ← contentOf path with
    | .error e => complain name (shownPath path ++ ": " ++ e.reason)
    | .ok b =>
      let texts := (lines ((ofOctets b).toList)).map String.ofList
      forEach (showNamed name format) texts
  | none, none, some path =>
    match ← changeTime path with
    | .error e => complain name (shownPath path ++ ": " ++ e.reason)
    | .ok time =>
      print (Calendar.shownAs format time ++ "\n")
      return 0
  | none, none, none =>
    print (Calendar.shownAs format (← disk).clock ++ "\n")
    return 0

/-- Shows a time. The one operand there may be is its format. -/
def showDate : Tool :=
  withOptions options 1 fun _ name i => do
    let kinds := ['d', 'f', 'r', resolutionLetter].filter i.has
    match formatsOf i with
    | .error text => misuse name text 1
    | .ok formats =>
      if 1 < kinds.length then
        misuse name "the options to specify dates for printing are mutually exclusive" 1
      else if i.has resolutionLetter then
        print "0.000000001\n"
        return 0
      else
        match i.operands with
        | _ :: extra :: _ => misuse name ("extra operand " ++ quotedText extra) 1
        | operands =>
          match operands.map fun (o : String) => (o, o.toList) with
          | [(_, '+' :: format)] =>
            if formats.isEmpty then showIn name (String.ofList format) i
            else complain name "multiple output formats specified"
          | [(o, _)] =>
            if !kinds.isEmpty then
              misuse name ("the argument " ++ quotedText o ++ " lacks a leading " ++ quoted "+" ++
                ";\nwhen using an option to specify date(s), any non-option\n" ++
                "argument must be a format string beginning with " ++ quoted "+") 1
            else complain name ("invalid date " ++ quotedText o)
          | _ =>
            if 1 < formats.length then complain name "multiple output formats specified"
            else showIn name (formats.headD usualFormat) i

end WasmBundle.Shell.Dating
