/-!
# Styled text

What a terminal shows is a list of spans, some of them styled. Where colours are off a span is its
bare text.
-/

namespace WasmBundle

inductive Color where
  | red
  | green
  | yellow
  | cyan
  deriving DecidableEq, Repr

/-- The digit of a colour in control sequences. -/
def Color.digit : Color → String
  | .red => "1"
  | .green => "2"
  | .yellow => "3"
  | .cyan => "6"

structure Style where
  color : Option Color := none
  bold : Bool := false
  deriving DecidableEq, Repr

structure Span where
  text : String
  style : Option Style := none
  deriving DecidableEq, Repr

/-- A control sequence that sets one attribute. -/
def controlSequence (number : String) : String := "\x1b[" ++ number ++ "m"

/-- Resets what came before, then sets the attributes of a style. -/
def Style.start (s : Style) : String :=
  controlSequence "0" ++ (if s.bold then controlSequence "1" else "") ++
    match s.color with
    | some c => controlSequence ("3" ++ c.digit)
    | none => ""

namespace Span

def plain (text : String) : Span := ⟨text, none⟩

def bold (text : String) : Span := ⟨text, some { bold := true }⟩

def colored (color : Color) (text : String) : Span := ⟨text, some { color := some color }⟩

def boldColored (color : Color) (text : String) : Span :=
  ⟨text, some { color := some color, bold := true }⟩

/-- The end of a line. -/
def lineEnd : Span := plain "\n"

def render (colors : Bool) (s : Span) : String :=
  match colors, s.style with
  | true, some style => style.start ++ s.text ++ controlSequence "0"
  | _, _ => s.text

end Span

/-- The text of spans, with colours or without. -/
def renderSpans (colors : Bool) (spans : List Span) : String :=
  String.join (spans.map (Span.render colors))

end WasmBundle
