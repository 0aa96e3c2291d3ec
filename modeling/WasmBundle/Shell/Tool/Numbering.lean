import WasmBundle.Shell.Regex
import WasmBundle.Shell.Tool.Lines

/-!
# Numbering lines

The tool that puts numbers before the lines of its inputs, which it takes for one text. Lines of a
certain kind part the text into sections: headers, bodies and footers, each with a style of its own.
-/

namespace WasmBundle.Shell.Numbering

open Running Tool

inductive Style where
  | all
  | filled
  | none
  | matching (r : Regex)

/-- The style that a text tells; it says nothing, or has an expression that is faulty. -/
def Style.ofText? (text : String) : Except (Option Regex.Fault) Style :=
  match text.toList with
  | 'a' :: _ => .ok .all
  | 't' :: _ => .ok .filled
  | 'n' :: _ => .ok .none
  | 'p' :: rest => ((Regex.ofText? {} rest).map .matching).mapError some
  | _ => .error Option.none

inductive Section where
  | header
  | body
  | footer
  deriving DecidableEq, Repr

structure Scheme where
  header : Style := .none
  body : Style := .filled
  footer : Style := .none
  /-- The number of the first line of a section. -/
  first : Int := 1
  step : Int := 1
  /-- Whether a section goes on with the numbers of the one before. -/
  goesOn : Bool := false
  /-- How many empty lines count as one. -/
  joined : Nat := 1
  separator : String := "\t"
  width : Nat := 6
  /-- How a number is shown. -/
  format : String := "rn"
  /-- The text that stands twice in a line that starts a body. -/
  sign : List Char := ['\\', ':']

def Scheme.style (n : Scheme) : Section → Style
  | .header => n.header
  | .body => n.body
  | .footer => n.footer

def Scheme.starts? (n : Scheme) (line : List Char) : Option Section :=
  if n.sign.length < 2 then none
  else if line = n.sign ++ n.sign ++ n.sign then some .header
  else if line = n.sign ++ n.sign then some .body
  else if line = n.sign then some .footer
  else none

structure State where
  part : Section := .body
  next : Int
  /-- How many empty lines stand one after another. -/
  empty : Nat := 0

def Scheme.number (n : Scheme) (k : Int) : String :=
  let digits := toString k.natAbs
  let text := (if k < 0 then "-" else "") ++ digits
  match n.format with
  | "ln" => Format.padded true ' ' n.width text
  | "rz" =>
    if k < 0 then "-" ++ Format.padded false '0' (n.width - 1) digits
    else Format.padded false '0' n.width digits
  | _ => Format.padded false ' ' n.width text

/-- Whether a line has a number, and how many empty lines stand one after another behind it. -/
def counts (n : Scheme) (s : State) (line : List Char) : Bool × Nat :=
  match n.style s.part with
  | .all =>
    if n.joined ≤ 1 then (true, s.empty)
    else if !line.isEmpty ∨ s.empty + 1 = n.joined then (true, 0)
    else (false, s.empty + 1)
  | .filled => (!line.isEmpty, s.empty)
  | .none => (false, s.empty)
  | .matching r => ((Regex.search { text := line.toArray } r 0).isSome, s.empty)

/-- A line with what stands before it; nothing if there are no more numbers. -/
def showLine (n : Scheme) (s : State) (line : List Char) : Option String × State :=
  let text := String.ofList line ++ "\n"
  match n.starts? line with
  | some part => (some "\n", { s with part, next := if n.goesOn then s.next else n.first })
  | none =>
    let (hasNumber, empty) := counts n s line
    if !hasNumber then
      let blank := Format.padded false ' ' (n.width + n.separator.length) ""
      (some (blank ++ text), { s with empty })
    else if Numeral.greatest < s.next ∨ s.next < Numeral.least then (none, s)
    else
      (some (n.number s.next ++ n.separator ++ text), { s with empty, next := s.next + n.step })

/-- Lines with what stands before them, up to the last one that can have a number. -/
def showLines (n : Scheme) : State → List (List Char) → List String × State × Bool
  | s, [] => ([], s, true)
  | s, line :: rest =>
    match showLine n s line with
    | (none, s) => ([], s, false)
    | (some text, s) =>
      let (others, s, isDone) := showLines n s rest
      (text :: others, s, isDone)

def options : OptionTable where
  flags := ['p']
  valued := ['b', 'h', 'f', 'v', 'i', 'l', 's', 'w', 'n', 'd']
  long := [("header-numbering", 'h'), ("body-numbering", 'b'), ("footer-numbering", 'f'),
    ("starting-line-number", 'v'), ("line-increment", 'i'), ("no-renumber", 'p'),
    ("join-blank-lines", 'l'), ("number-separator", 's'), ("number-width", 'w'),
    ("number-format", 'n'), ("section-delimiter", 'd')]

/-- How a fault of an option ends the reading of options. -/
inductive Misuse where
  /-- Others are told too. -/
  | later (text : String)
  | now (text : String)

def withStyle (title : String) (value : String) (set : Style → Scheme) :
    Except Misuse Scheme :=
  match Style.ofText? value with
  | .ok s => .ok (set s)
  | .error none => .error (.later ("invalid " ++ title ++ " numbering style: " ++ quotedText value))
  | .error (some f) => .error (.now f.message)

def withNumber (title : String) (least most : Int) (value : String) (set : Int → Scheme) :
    Except Misuse Scheme :=
  match Size.between? least most value with
  | .ok n => .ok (set n)
  | .error reason => .error (.now ("invalid " ++ title ++ ": " ++ quotedText value ++ reason))

def greatestWidth : Int := 2147483647

/-- What an option makes of a way to number. -/
def withOption (n : Scheme) (o : Char × String) : Except Misuse Scheme :=
  let value := o.2
  match o.1 with
  | 'h' => withStyle "header" value fun s => { n with header := s }
  | 'b' => withStyle "body" value fun s => { n with body := s }
  | 'f' => withStyle "footer" value fun s => { n with footer := s }
  | 'v' =>
    withNumber "starting line number" Numeral.least Numeral.greatest value fun k =>
      { n with first := k }
  | 'i' =>
    withNumber "line number increment" Numeral.least Numeral.greatest value fun k =>
      { n with step := k }
  | 'l' =>
    withNumber "line number of blank lines" 1 Numeral.greatest value fun k =>
      { n with joined := k.toNat }
  | 'w' =>
    withNumber "line number field width" 1 greatestWidth value fun k =>
      { n with width := k.toNat }
  | 's' => .ok { n with separator := value }
  | 'p' => .ok { n with goesOn := true }
  | 'd' =>
    match value.toList with
    | [a] => .ok { n with sign := a :: n.sign.drop 1 }
    | cs => .ok { n with sign := cs }
  | _ =>
    if ["ln", "rn", "rz"].contains value then .ok { n with format := value }
    else .error (.later ("invalid line numbering format: " ++ quotedText value))

/-- The way to number that options tell, and what is said of those that make no sense; nothing if
one of them ends everything. -/
def read (name : String) : Scheme → List (Char × String) → Running (Option (Scheme × Bool))
  | n, [] => return some (n, true)
  | n, o :: rest => do
    match withOption n o with
    | .ok n => read name n rest
    | .error (.now text) =>
      printError (name ++ ": " ++ text ++ "\n")
      return none
    | .error (.later text) =>
      printError (name ++ ": " ++ text ++ "\n")
      return (← read name n rest).map fun r => (r.1, false)

/-- Numbers the lines of inputs one after another. -/
def numberInputs (name : String) (n : Scheme) : State → List String → Running Nat
  | _, [] => return 0
  | s, o :: rest => do
    match ← contentOf o with
    | .error e =>
      let status ← complain name (shownPath o ++ ": " ++ e.reason)
      return max status (← numberInputs name n s rest)
    | .ok b =>
      let (texts, s, isDone) := showLines n s (lines (chars b))
      print (String.join texts)
      if isDone then numberInputs name n s rest else complain name "line number overflow"

def number : Tool :=
  withOptions options 1 fun _ name i => do
    match ← read name {} i.options with
    | none => return 1
    | some (n, true) => numberInputs name n { next := n.first } (inputs i.operands)
    | some (_, false) =>
      printError (tryHelp name)
      return 1

end WasmBundle.Shell.Numbering
