import Std.Data.HashMap

/-!
# Changes between two sequences

The lines that must be taken out of one sequence and put into it to make another one, as few as
possible. Of several ways one is found by a search from both ends that meets in the middle, and then
every run of changes is moved as far down as it goes.
-/

namespace WasmBundle.Shell.Differing

/-- A part of both sequences: `[left, leftEnd)` of the first and `[right, rightEnd)` of the
second. -/
structure Box where
  left : Int
  leftEnd : Int
  right : Int
  rightEnd : Int
  deriving DecidableEq, Repr

/-- How far a search has come on each diagonal, between a low and a high one. A diagonal is the
distance of a place in the first sequence from one in the second. -/
structure Frontier where
  low : Int
  high : Int
  reach : Std.HashMap Int Int

namespace Frontier

def at_ (f : Frontier) (diagonal beyond : Int) : Int := f.reach.getD diagonal beyond

/-- A wider frontier, within bounds; what lies beyond is not reached yet. -/
def widened (f : Frontier) (least greatest beyond : Int) : Frontier :=
  let f :=
    if least < f.low then
      { f with low := f.low - 1, reach := f.reach.insert (f.low - 2) beyond }
    else { f with low := f.low + 1 }
  if f.high < greatest then
    { f with high := f.high + 1, reach := f.reach.insert (f.high + 2) beyond }
  else { f with high := f.high - 1 }

end Frontier

structure Spot where
  left : Int
  right : Int
  deriving DecidableEq, Repr

/-- The sequences that are compared: their sizes, and which of their elements are equal. -/
structure Pair where
  first : Nat
  second : Nat
  same : Nat → Nat → Bool

namespace Pair

def equal (p : Pair) (x y : Int) : Bool := p.same x.toNat y.toNat

def slideDown (p : Pair) (b : Box) : Nat → Int → Int → Int
  | 0, x, _ => x
  | limit + 1, x, y =>
    if x < b.leftEnd && y < b.rightEnd && p.equal x y then p.slideDown b limit (x + 1) (y + 1)
    else x

def slideUp (p : Pair) (b : Box) : Nat → Int → Int → Int
  | 0, x, _ => x
  | limit + 1, x, y =>
    if b.left < x && b.right < y && p.equal (x - 1) (y - 1) then p.slideUp b limit (x - 1) (y - 1)
    else x

def bound (p : Pair) : Nat := p.first + p.second + 2

/-- One step of the search from the start on the diagonals from one on downwards, or the place where
it meets the search from the end. -/
def stepDown (p : Pair) (b : Box) (other : Frontier) (mayMeet : Bool) :
    Nat → Int → Frontier → Except Spot Frontier
  | 0, _, f => .ok f
  | limit + 1, d, f =>
    if d < f.low then .ok f
    else
      let below := f.at_ (d - 1) (-1)
      let above := f.at_ (d + 1) (-1)
      let start := if below < above then above else below + 1
      let x := p.slideDown b p.bound start (start - d)
      if mayMeet && other.low ≤ d && d ≤ other.high && other.at_ d (-1) ≤ x then
        .error { left := x, right := x - d }
      else p.stepDown b other mayMeet limit (d - 2) { f with reach := f.reach.insert d x }

def stepUp (p : Pair) (b : Box) (other : Frontier) (mayMeet : Bool) (beyond : Int) :
    Nat → Int → Frontier → Except Spot Frontier
  | 0, _, f => .ok f
  | limit + 1, d, f =>
    if d < f.low then .ok f
    else
      let below := f.at_ (d - 1) beyond
      let above := f.at_ (d + 1) beyond
      let start := if below < above then below else above - 1
      let x := p.slideUp b p.bound start (start - d)
      if mayMeet && other.low ≤ d && d ≤ other.high && x ≤ other.at_ d (-1) then
        .error { left := x, right := x - d }
      else p.stepUp b other mayMeet beyond limit (d - 2) { f with reach := f.reach.insert d x }

def meet (p : Pair) (b : Box) : Nat → Frontier → Frontier → Spot
  | 0, _, _ => { left := b.leftEnd, right := b.rightEnd }
  | limit + 1, down, up =>
    let least := b.left - b.rightEnd
    let greatest := b.leftEnd - b.right
    let beyond := b.leftEnd + b.rightEnd + 2
    let isOdd := (b.left - b.right - (b.leftEnd - b.rightEnd)) % 2 != 0
    let down := down.widened least greatest (-1)
    match p.stepDown b up isOdd p.bound down.high down with
    | .error spot => spot
    | .ok down =>
      let up := up.widened least greatest beyond
      match p.stepUp b down (!isOdd) beyond p.bound up.high up with
      | .error spot => spot
      | .ok up => p.meet b limit down up

def middle (p : Pair) (b : Box) : Spot :=
  let center := b.left - b.right
  let far := b.leftEnd - b.rightEnd
  p.meet b p.bound { low := center, high := center, reach := Std.HashMap.ofList [(center, b.left)] }
    { low := far, high := far, reach := Std.HashMap.ofList [(far, b.leftEnd)] }

def trimmed (p : Pair) (b : Box) : Box :=
  let left := p.slideDown b p.bound b.left b.right
  let b := { b with left, right := b.right + (left - b.left) }
  let leftEnd := p.slideUp b p.bound b.leftEnd b.rightEnd
  { b with leftEnd, rightEnd := b.rightEnd - (b.leftEnd - leftEnd) }

def span (a b : Int) : List Nat := (List.range (b - a).toNat).map fun (i : Nat) => (a + i).toNat

/-- The elements of a box that have no partner, in the first sequence and in the second. -/
def unpaired (p : Pair) : Nat → Box → List Nat × List Nat
  | 0, b => (span b.left b.leftEnd, span b.right b.rightEnd)
  | limit + 1, b =>
    let b := p.trimmed b
    if b.left = b.leftEnd ∨ b.right = b.rightEnd then
      (span b.left b.leftEnd, span b.right b.rightEnd)
    else
      let spot := p.middle b
      let before := p.unpaired limit { b with leftEnd := spot.left, rightEnd := spot.right }
      let behind := p.unpaired limit { b with left := spot.left, right := spot.right }
      (before.1 ++ behind.1, before.2 ++ behind.2)

end Pair

/-- Which elements of two sequences have no partner. Elements that occur in one of them only are
left out of the search. -/
def changedIn (l m : Array (List Char)) : Array Bool × Array Bool :=
  let places := fun (a other : Array (List Char)) =>
    let known := other.foldl (fun (s : Std.HashMap String Unit) x => s.insert (.ofList x) ()) {}
    ((List.range a.size).filter fun i => known.contains (.ofList ((a[i]?).getD []))).toArray
  let first := places l m
  let second := places m l
  let elementOf := fun (a : Array (List Char)) (l : Array Nat) (i : Nat) =>
    (l[i]?).bind fun (n : Nat) => a[n]?
  let p : Pair :=
    { first := first.size, second := second.size
      same := fun x y => elementOf l first x == elementOf m second y }
  let (a, b) := p.unpaired (p.bound)
    { left := 0, leftEnd := first.size, right := 0, rightEnd := second.size }
  let flags := fun (size : Nat) (kept : Array Nat) (unpaired : List Nat) =>
    let all := kept.foldl (fun (f : Array Bool) i => f.setIfInBounds i false)
      (Array.replicate size true)
    unpaired.foldl (fun (f : Array Bool) i => f.setIfInBounds ((kept[i]?).getD size) true) all
  (flags l.size first a, flags m.size second b)

/-- A run of changes in one sequence while it is moved: it is `[start, stop)`, and `other` is the
place in the other sequence that belongs to its end. -/
structure Run where
  flags : Array Bool
  start : Int
  stop : Int
  other : Int
  /-- Where the end last belonged to changes in the other sequence. -/
  matched : Option Int := none

namespace Run

def flagAt (f : Array Bool) (i : Int) : Bool := if i < 0 then false else (f[i.toNat]?).getD false

def setAt (f : Array Bool) (i : Int) (b : Bool) : Array Bool := f.setIfInBounds i.toNat b

/-- The first place from one on, or behind it, that is not changed. -/
def skipDown (f : Array Bool) : Nat → Int → Int
  | 0, i => i
  | limit + 1, i => if flagAt f i then skipDown f limit (i + 1) else i

def skipUp (f : Array Bool) : Nat → Int → Int
  | 0, i => i
  | limit + 1, i => if flagAt f i then skipUp f limit (i - 1) else i

def up (r : Run) (other : Array Bool) : Run :=
  let flags := setAt (setAt r.flags (r.start - 1) true) (r.stop - 1) false
  { r with
    flags
    start := skipUp flags (flags.size + 1) (r.start - 2) + 1
    stop := r.stop - 1
    other := skipUp other (other.size + 1) (r.other - 1) }

def upwards (same : Int → Int → Bool) (other : Array Bool) : Nat → Run → Run
  | 0, r => r
  | limit + 1, r =>
    if 0 < r.start && same (r.start - 1) (r.stop - 1) then upwards same other limit (r.up other)
    else r

def down (r : Run) (other : Array Bool) : Run :=
  let flags := setAt (setAt r.flags r.start false) r.stop true
  let stop := skipDown flags (flags.size + 1) (r.stop + 1)
  let next := skipDown other (other.size + 1) (r.other + 1)
  { r with
    flags, start := r.start + 1, stop, other := next
    matched := if r.other + 1 < next then some stop else r.matched }

def downwards (same : Int → Int → Bool) (other : Array Bool) : Nat → Run → Run
  | 0, r => r
  | limit + 1, r =>
    if r.stop < r.flags.size && same r.start r.stop then
      downwards same other limit (r.down other)
    else r

def settled (same : Int → Int → Bool) (other : Array Bool) : Nat → Run → Run
  | 0, r => r
  | limit + 1, r =>
    let size := r.stop - r.start
    let r := upwards same other r.flags.size r
    let r := { r with matched := if flagAt other (r.other - 1) then some r.stop else none }
    let r := downwards same other r.flags.size r
    if r.stop - r.start = size then r else settled same other limit r

/-- The run moved back to where it belongs to changes in the other sequence. -/
def back (other : Array Bool) : Nat → Run → Run
  | 0, r => r
  | limit + 1, r =>
    if r.matched.any (· < r.stop) then
      let flags := setAt (setAt r.flags (r.start - 1) true) (r.stop - 1) false
      back other limit
        { r with
          flags, start := r.start - 1, stop := r.stop - 1
          other := skipUp other (other.size + 1) (r.other - 1) }
    else r

end Run

/-- The changes of a sequence from a place on, each run moved to where it is shown; `j` is the place
in the other sequence. -/
def movedFrom (same : Int → Int → Bool) (other : Array Bool) :
    Nat → Int → Int → Array Bool → Array Bool
  | 0, _, _, flags => flags
  | limit + 1, i, j, flags =>
    let n := flags.size + 1
    if flags.size ≤ i.toNat then flags
    else if !Run.flagAt flags i then
      movedFrom same other limit (i + 1) (Run.skipDown other (other.size + 1) j + 1) flags
    else
      let r : Run :=
        { flags, start := i, stop := Run.skipDown flags n i
          other := Run.skipDown other (other.size + 1) j }
      let r := Run.back other n (Run.settled same other n r)
      movedFrom same other limit r.stop r.other r.flags

/-- The changes of a sequence with every run moved to where it is shown. -/
def moved (l : Array (List Char)) (flags other : Array Bool) : Array Bool :=
  let same := fun (a b : Int) => l[a.toNat]? == l[b.toNat]?
  movedFrom same other (2 * flags.size + 2) 0 0 flags

/-- Lines of the first sequence that are replaced by lines of the second: where they stand and how
many there are. -/
structure Change where
  first : Nat
  removed : Nat
  second : Nat
  added : Nat
  deriving DecidableEq, Repr

def changesFrom (f g : Array Bool) : Nat → Nat → Nat → List Change
  | 0, _, _ => []
  | limit + 1, i, j =>
    if f.size ≤ i ∧ g.size ≤ j then []
    else
      let iEnd := (Run.skipDown f (f.size + 1) i).toNat
      let jEnd := (Run.skipDown g (g.size + 1) j).toNat
      if i < iEnd ∨ j < jEnd then
        { first := i, removed := iEnd - i, second := j, added := jEnd - j } ::
          changesFrom f g limit iEnd jEnd
      else changesFrom f g limit (i + 1) (j + 1)

def changes (l m : List (List Char)) : List Change :=
  let l := l.toArray
  let m := m.toArray
  let (f, g) := changedIn l m
  let f := moved l f g
  let g := moved m g f
  changesFrom f g (l.size + m.size + 1) 0 0

/-- How many elements two sequences have in common at their start. -/
def commonStart : List (List Char) → List (List Char) → Nat
  | a :: l, b :: m => if a = b then commonStart l m + 1 else 0
  | _, _ => 0

/-- The changes between two texts, going by what counts of their lines. What both have in common at
their ends is left alone, apart from some lines that are shown around changes. -/
def changesWithin (key : List Char → List Char) (context : Nat) (l m : List (List Char)) :
    List Change :=
  let top := commonStart l m - context
  let l := l.drop top
  let m := m.drop top
  let bottom := commonStart l.reverse m.reverse - context
  let inner := fun (lines : List (List Char)) => (lines.take (lines.length - bottom)).map key
  (changes (inner l) (inner m)).map fun c =>
    { c with first := c.first + top, second := c.second + top }

end WasmBundle.Shell.Differing
