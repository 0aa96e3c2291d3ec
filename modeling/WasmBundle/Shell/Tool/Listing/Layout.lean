import WasmBundle.Shell.Dates
import WasmBundle.Shell.Tool.Listing.Fact
import WasmBundle.Shell.Tool.Listing.Style

/-!
# Layout of lists

How names and facts are shown, and how the texts for them fill lines and columns.
-/

namespace WasmBundle.Shell.Listing

open Tool

def markedChars (cs : List Char) : List Char :=
  cs.flatMap fun c =>
    if c = '"' ∨ c = '\\' then ['\\', c] else if isPrintable c then [c] else escape c

/-- A name between apostrophes as the shell reads it, with what cannot be printed as it is. -/
def rawQuoted (name : String) : String :=
  let cs := name.toList
  let isPlain := fun (c : Char) => !(isSpecialSign c) || c = ' '
  if cs.contains apostrophe ∧ cs.all isPlain then "\"" ++ name ++ "\""
  else
    quoted (String.ofList (cs.flatMap fun c =>
      if c = apostrophe then [apostrophe, '\\', apostrophe, apostrophe] else [c]))

def shownName (q : Quoting) (name : String) : String :=
  let cs := name.toList
  match q with
  | .literal => name
  | .shell always escapes =>
    if always || isUnclear cs then if escapes then quotedPath name else rawQuoted name else name
  | .marked always =>
    let inner := markedChars cs
    if always || inner ≠ cs then "\"" ++ String.ofList inner ++ "\"" else name
  | .escaped =>
    String.ofList (cs.flatMap fun c =>
      if c = ' ' ∨ c = '\\' then ['\\', c] else if isPrintable c then [c] else escape c)
  | .apostrophes => quotedText name

def Style.nameText (s : Style) (name : String) : String :=
  let text := shownName s.quoting name
  if s.hidesControls then String.ofList (text.toList.map fun c => if isPrintable c then c else '?')
  else text

def widthOf (text : String) : Nat := (text.toList.filter isPrintable).length

/-- What is shown behind a name for what it is. -/
def Style.mark (s : Style) (f : Fact) : String :=
  match f.kindLetter, s.marks with
  | _, .none => ""
  | 'd', _ => "/"
  | _, .directories => ""
  | 'l', _ => "@"
  | '-', .all => if f.mode &&& 0o111 ≠ 0 then "*" else ""
  | _, _ => ""

/-- A size with a letter for its unit, rounded up. -/
def readableSize (base n : Nat) : String :=
  let rec go : Nat → List Char → Nat → String
    | 0, _, _ => toString n
    | _, [], _ => toString n
    | limit + 1, letter :: others, unit =>
      let whole := (n + unit - 1) / unit
      let tenths := (n * 10 + unit - 1) / unit
      if tenths < 100 then
        toString (tenths / 10) ++ "." ++ toString (tenths % 10) ++ String.ofList [letter]
      else if whole < base ∨ others.isEmpty then toString whole ++ String.ofList [letter]
      else go limit others (unit * base)
  if n < base then toString n
  else go 8 [if base = 1000 then 'k' else 'K', 'M', 'G', 'T', 'P', 'E'] base

def Scale.show (s : Scale) (bytes : Nat) : String :=
  match s with
  | .readable base => readableSize base bytes
  | .units size suffix => toString ((bytes + size - 1) / size) ++ suffix

def Style.timeText (s : Style) (now time : Int) : String :=
  let isRecent := now - 15778476000000000 < time ∧ time ≤ now
  match s.time with
  | .usual => Calendar.shownAs (if isRecent then "%b %e %H:%M" else "%b %e  %Y") time
  | .short => Calendar.shownAs "%H:%M" time
  | .full => fullTime time
  | .format recent old => Calendar.shownAs (if isRecent then recent else old) time

/-- What is listed: a name, the path to it and what is known of it. -/
structure Listed where
  name : String
  path : String
  fact : Fact
  /-- Whether it is a directory or a link to one. -/
  isDirectory : Bool := false
  /-- What is known of what a link leads to. -/
  behind : Option Fact := none

def column (width : Nat) (text : String) : String := Format.padded false ' ' width text

def numberText (f : Fact) : String :=
  match f.entry with
  | .file n => toString (n + 1)
  | _ => "1"

def Style.named (s : Style) (x : Listed) : String :=
  match x.fact.entry with
  | .link target =>
    if s.form = .long then
      s.nameText x.name ++ " -> " ++ s.nameText (ofOctets target.bytes) ++
        (x.behind.map s.mark).getD ""
    else s.nameText x.name ++ s.mark x.fact
  | _ => s.nameText x.name ++ s.mark x.fact

/-- The texts for what is listed, one for each. -/
def Style.texts (s : Style) (now : Int) (l : List Listed) : List String :=
  let widest := fun (text : Fact → String) => (l.map fun x => (text x.fact).length).foldl max 0
  let size := fun (f : Fact) => if f.isDevice then "1, 3" else s.sizes.show f.size
  let blocks := fun (f : Fact) => s.blocks.show (f.blocks * 1024)
  let fits := fun (text : Fact → String) (f : Fact) =>
    if s.form = .commas then text f else column (widest text) (text f)
  let user := (if s.isNumeric then "0" else ownerName) ++ " "
  let isQuoted := fun (name : String) => s.nameText name != name
  let aligns :=
    (s.form matches .long | .columns | .across) && (s.quoting matches .shell _ _ | .marked false) &&
      l.any fun x => isQuoted x.name
  l.map fun x =>
    let f := x.fact
    let start :=
      (if s.showsNumber then fits numberText f ++ " " else "") ++
      (if s.showsBlocks then fits blocks f ++ " " else "") ++
      (if s.showsContext ∧ s.form ≠ .long then "? " else "")
    let name := (if aligns ∧ !isQuoted x.name then " " else "") ++ s.named x
    if s.form = .long then
      start ++ f.modeText ++ " " ++ fits (fun f => toString f.names) f ++ " " ++
        (if s.withoutOwner then "" else user) ++ (if s.withoutGroup then "" else user) ++
        (if s.showsAuthor then user else "") ++ (if s.showsContext then "? " else "") ++
        fits size f ++ " " ++ s.timeText now f.time ++ " " ++ name
    else start ++ name

/-- Texts with commas between them, in lines that are filled up; `used` is the length of the line in
progress. -/
def withCommas (width used : Nat) (separator : String) : List String → List String
  | [] => []
  | a :: rest =>
    let fits := width = 0 ∨ used + widthOf a + 2 < width
    let start := if fits then separator ++ " " else separator ++ "\n"
    let before := if fits then used + 2 else 0
    (start ++ a) :: withCommas width (before + widthOf a) separator rest

def joinedTexts (width : Nat) (separator : String) : List String → String
  | [] => ""
  | a :: rest => String.join (a :: withCommas width (widthOf a) separator rest)

def leastWidth : Nat := 3

/-- The widths of so many columns for texts, if lines are not too long then. -/
def widthsOf? (down : Bool) (width count : Nat) (sizes : List Nat) : Option (List Nat) :=
  let rows := (sizes.length + count - 1) / count
  let place := fun (i : Nat) => if down then i / rows else i % count
  let put := fun (widths : Array Nat) (x : Nat × Nat) =>
    let c := place x.1
    let size := x.2 + if c + 1 = count then 0 else 2
    widths.modify c (max size)
  let start : Array Nat := Array.replicate count leastWidth
  let widths := ((List.range sizes.length).zip sizes).foldl put start
  let l := widths.toList
  if l.foldl (· + ·) 0 < width then some l else none

def widthsUpTo (down : Bool) (width : Nat) (sizes : List Nat) : Nat → List Nat
  | 0 => [0]
  | 1 => [(widthsOf? down width 1 sizes).map (·.headD 0) |>.getD 0]
  | count + 2 =>
    match widthsOf? down width (count + 2) sizes with
    | some l => l
    | none => widthsUpTo down width sizes (count + 1)

/-- What leads from a place in a line to another one. -/
def gapTo (tab : Nat) : Nat → Nat → Nat → String
  | 0, _, _ => ""
  | limit + 1, place, target =>
    if target ≤ place then ""
    else if tab ≠ 0 ∧ (place + 1) / tab < target / tab then
      "\t" ++ gapTo tab limit (place + tab - place % tab) target
    else " " ++ gapTo tab limit (place + 1) target

/-- A line of texts in columns, the first of which starts at a place. -/
def columnLine (tab : Nat) : Nat → List Nat → List String → String
  | place, w :: widths, a :: b :: rest =>
    a ++ gapTo tab (w + 1) (place + widthOf a) (place + w) ++
      columnLine tab (place + w) widths (b :: rest)
  | _, _, [a] => a
  | _, _, _ => ""

/-- Texts in columns, as lines. -/
def inColumns (s : Style) (texts : List String) : List String :=
  let down := s.form = .columns
  let sizes := texts.map widthOf
  let most := s.width / leastWidth + if s.width % leastWidth = 0 then 0 else 1
  let widths := widthsUpTo down s.width sizes (min most texts.length)
  let count := max 1 widths.length
  let rows := (texts.length + count - 1) / count
  let all := texts.toArray
  (List.range rows).map fun r =>
    let places := (List.range count).map fun c => if down then r + c * rows else r * count + c
    columnLine s.tab 0 widths (places.filterMap fun i => all[i]?)

def Style.laidOut (s : Style) (texts : List String) : String :=
  if texts.isEmpty then ""
  else
    let inLine := fun (separator : String) => joinedTexts s.width separator texts ++ s.closing
    match s.form with
    | .commas => inLine ","
    | .columns => if s.width = 0 then inLine " " else grid
    | .across => if s.width = 0 then inLine " " else grid
    | _ => String.join (texts.map (· ++ s.closing))
where
  grid : String := String.join ((inColumns s texts).map (· ++ s.closing))

end WasmBundle.Shell.Listing
