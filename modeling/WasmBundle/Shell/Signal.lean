import WasmBundle.Shell.Numeral

/-!
# Signals

The signals that can be sent to a shell, by number and name, and what becomes of a process that
does not catch them.
-/

namespace WasmBundle.Shell.Signal

/-- The names of the signals in the order of their numbers, which start at 1. -/
def names : List String :=
  ["HUP", "INT", "QUIT", "ILL", "TRAP", "ABRT", "BUS", "FPE", "KILL", "USR1", "SEGV", "USR2",
    "PIPE", "ALRM", "TERM", "STKFLT", "CHLD", "CONT", "STOP", "TSTP", "TTIN", "TTOU", "URG",
    "XCPU", "XFSZ", "VTALRM", "PROF", "WINCH", "IO", "PWR", "SYS"]

def name? (number : Nat) : Option String := if number = 0 then none else names[number - 1]?

def endName : String := "EXIT"

/-- A signal by its number or its name; the end of the shell counts as number 0. -/
def number? (text : String) : Option Nat :=
  match Numeral.count? text with
  | some n => if n ≤ 64 then some n else none
  | none =>
    let upper := text.toUpper
    if upper = endName then some 0 else (names.idxOf? upper).map (· + 1)

def trapName (number : Nat) : String := (name? number).getD (if number = 0 then endName else "")

def isIgnored (number : Nat) : Bool := [17, 18, 23, 28].contains number

/-- What is told of a process that a signal ended; nothing for two of the signals. -/
def report? (number : Nat) : Option String :=
  match number with
  | 1 => some "Hangup"
  | 2 => none
  | 3 => some "Quit"
  | 4 => some "Illegal instruction"
  | 5 => some "Trace/breakpoint trap"
  | 6 => some "Aborted"
  | 7 => some "Bus error"
  | 8 => some "Floating point exception"
  | 9 => some "Killed"
  | 10 => some "User defined signal 1"
  | 11 => some "Segmentation fault"
  | 12 => some "User defined signal 2"
  | 13 => none
  | 14 => some "Alarm clock"
  | 15 => some "Terminated"
  | _ => some ("Signal " ++ toString number)

end WasmBundle.Shell.Signal
