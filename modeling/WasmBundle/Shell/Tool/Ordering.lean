import Std.Data.HashMap
import WasmBundle.Shell.Tool.Lines

/-!
# Orders that keep pairs

The tool that reads pairs of names and shows all names such that the first one of a pair comes
before the second one. Where that cannot be, a loop is told of and one of its pairs is left out.
-/

namespace WasmBundle.Shell.Ordering

open Running Tool

/-- A name with what is known of it. Names are told by their numbers in the order of their texts. -/
structure Item where
  text : String
  /-- How many pairs that count still have it as the second name. -/
  before : Nat := 0
  /-- The second names of its pairs, the last pair first. -/
  after : List Nat := []
  isShown : Bool := false
  deriving Inhabited

structure Order where
  items : Array Item
  /-- The names that can be shown, in order. -/
  ready : List Nat := []
  shown : Nat := 0
  /-- Names on the way back from one to another that it must precede: each with the next one. -/
  links : List (Nat × Nat) := []

namespace Order

def item (o : Order) (i : Nat) : Item := (o.items[i]?).getD { text := "" }

def ofWords (words : List String) : Order :=
  let names := (words.mergeSort fun a b => a ≤ b).eraseReps
  let numbers := (names.zip (List.range names.length)).foldl
    (fun (m : Std.HashMap String Nat) p => m.insert p.1 p.2) {}
  let rec add (items : Array Item) : List String → Array Item
    | a :: b :: rest =>
      if a = b then add items rest
      else
        let i := (numbers[a]?).getD 0
        let j := (numbers[b]?).getD 0
        let items := items.modify i fun x => { x with after := j :: x.after }
        add (items.modify j fun x => { x with before := x.before + 1 }) rest
    | _ => items
  { items := add (names.map fun t => { text := t : Item }).toArray words }

def numbers (o : Order) : List Nat := List.range o.items.size

def findReady (o : Order) : Order :=
  { o with
    ready := o.numbers.filter fun i =>
      let x := o.item i
      x.before == 0 && !x.isShown }

/-- Takes away a pair of a name; the other one of it may be ready then. -/
def release (o : Order) (j : Nat) : Order × Option Nat :=
  let left := (o.item j).before - 1
  ({ o with items := o.items.modify j fun x => { x with before := left } },
    if left = 0 then some j else none)

/-- Takes away the pairs of a name; the names that are ready then. -/
def releaseAll (o : Order) (l : List Nat) : Order × List Nat :=
  let (o, found) := l.foldl
    (fun (s : Order × List Nat) j =>
      let (o, r) := s.1.release j
      (o, r.toList ++ s.2)) (o, [])
  (o, found.reverse)

/-- The names on the way from a name back to another one, as they are linked. -/
def chain (o : Order) (last : Nat) : Nat → Nat → List Nat
  | 0, _ => []
  | limit + 1, i =>
    if i = last then [i]
    else
      match o.links.lookup i with
      | some j => i :: o.chain last limit j
      | none => [i]

/-- What a walk through the names finds that looks for a loop. -/
inductive Walk where
  /-- The name that the loop is followed back from, if there is one yet. -/
  | going (o : Order) (start : Option Nat)
  /-- The loop, with one of its pairs left out. -/
  | found (o : Order) (loop : List Nat)

/-- Follows the way back from a name to those before it, in one walk through the names. -/
def walk (o : Order) (start : Option Nat) : List Nat → Walk
  | [] => .going o start
  | i :: rest =>
    let x := o.item i
    if x.before = 0 then walk o start rest
    else
      match start with
      | none => walk o (some i) rest
      | some s =>
        if x.after.contains s then
          if (o.links.lookup i).isSome then
            let loop := o.chain i (o.items.size + 1) s
            let items := o.items.modify i fun x => { x with after := x.after.erase s }
            .found { ({ o with items } : Order).release s |>.1 with links := [] } loop
          else walk { o with links := (i, s) :: o.links } (some i) rest
        else walk o start rest

def findLoop (o : Order) : Nat → Option Nat → Order × List Nat
  | 0, _ => (o, [])
  | limit + 1, start =>
    match o.walk start o.numbers with
    | .going o start => findLoop o limit start
    | .found o loop => (o, loop)

end Order

def showAll (name source : String) : Nat → Order → Nat → Running Nat
  | 0, _, status => return status
  | limit + 1, o, status => do
    match o.ready with
    | i :: rest =>
      let x := o.item i
      print (x.text ++ "\n")
      let o := { o with items := o.items.modify i fun x => { x with isShown := true } }
      let (o, found) := o.releaseAll x.after
      showAll name source limit { o with ready := rest ++ found, shown := o.shown + 1 } status
    | [] =>
      if o.shown = o.items.size then return status
      else
        let o := o.findReady
        if o.ready.isEmpty then
          let (o, loop) := o.findLoop (o.items.size * o.items.size + 2) none
          let _ ← complain name (source ++ ": input contains a loop:")
          for i in loop do
            let _ ← complain name (o.item i).text
          showAll name source limit o 1
        else showAll name source limit o status

def wordsOf (cs : List Char) : List String :=
  let isGap := fun (c : Char) => c = ' ' ∨ c = '\t' ∨ c = '\n'
  ((cs.splitBy fun a b => decide (isGap a) == decide (isGap b)).filter
    fun w => !(w.any fun c => decide (isGap c))).map String.ofList

def order : Tool :=
  withOptions {} 1 fun _ name i => do
    match i.operands with
    | _ :: extra :: _ => misuse name ("extra operand " ++ quotedText extra) 1
    | operands =>
      let source := operands.headD "-"
      match ← contentOf source with
      | .error e => complain name (shownPath source ++ ": " ++ e.reason)
      | .ok b =>
        let words := wordsOf (chars b)
        if words.length % 2 = 1 then
          complain name (shownPath source ++ ": input contains an odd number of tokens")
        else
          let o := Order.ofWords words
          let pairs := words.length / 2
          showAll name (shownPath source) (3 * (o.items.size + pairs) + 10) o 0

end WasmBundle.Shell.Ordering
