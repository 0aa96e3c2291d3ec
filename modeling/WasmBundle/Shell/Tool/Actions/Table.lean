import Std.Data.HashMap
import WasmBundle.Shell.Tool.Actions.Value

/-!
# Tables

A table gives values to keys. Programs can go through its keys; the order in which that is done
comes from how the keys are placed: in buckets by their numbers and by a sum over their texts, a
key that was asked for at the front of its bucket. The order says nothing about the values.
-/

namespace WasmBundle.Shell.Actions

abbrev Buckets (α : Type) := Array (List α)

/-- How the keys of a table are placed. -/
inductive Placing where
  /-- There are none. -/
  | empty
  /-- They are the numbers from one on. -/
  | run
  /-- They are in buckets by their numbers, and all of them in buckets by their texts once one was
  asked for by its text. -/
  | spread (numbers : Buckets Int) (texts : Option (Buckets String))

structure Table where
  values : Std.HashMap String Value := {}
  placing : Placing := .empty

instance : Inhabited Table := ⟨{}⟩

namespace Placing

def firstSize : Nat := 64

def roomOfBucket : Nat := 12

def sumOf (s : String) : Nat :=
  (s.toList.foldl (fun (h : UInt32) c => (h ^^^ c.toNat.toUInt32) * 16777619) 2166136261).toNat

def bucketOfNumber (size : Nat) (n : Int) : Nat := (n % size).toNat

def bucketOfText (size : Nat) (s : String) : Nat := sumOf s % size

def bring {α : Type} [BEq α] (buckets : Buckets α) (i : Nat) (a : α) : Buckets α :=
  buckets.modify i fun l => if l.head? == some a then l else a :: l.erase a

def leave {α : Type} [BEq α] (buckets : Buckets α) (i : Nat) (a : α) : Buckets α :=
  buckets.modify i fun l => l.erase a

/-- Twice as many buckets; keys stay in their order. -/
def doubled {α : Type} (place : Nat → α → Nat) (buckets : Buckets α) : Buckets α :=
  let size := buckets.size
  let part := fun (late : Bool) => buckets.map fun l =>
    l.filter fun a => (size ≤ place (2 * size) a) == late
  part false ++ part true

def emptyBuckets {α : Type} (size : Nat) : Buckets α := Array.replicate size []

def sizeFor (keys : Nat) : Nat → Nat → Nat
  | 0, size => size
  | limit + 1, size => if size * roomOfBucket < keys then sizeFor keys limit (2 * size) else size

def spreadOut (keys : Nat) : Buckets Int :=
  let size := sizeFor keys keys firstSize
  (List.range keys).foldl
    (fun b i => bring b (bucketOfNumber size (Int.ofNat (i + 1))) (Int.ofNat (i + 1)))
    (emptyBuckets size)

/-- Keys in buckets by their texts, from those by their numbers. -/
def byText (numbers : Buckets Int) : Buckets String :=
  numbers.foldl
    (fun b l =>
      l.foldl (fun b n => bring b (bucketOfText numbers.size (toString n)) (toString n)) b)
    (emptyBuckets numbers.size)

def grown (keys : Nat) : Placing → Placing
  | .spread numbers texts =>
    if numbers.size * roomOfBucket ≤ keys then
      .spread (doubled bucketOfNumber numbers) (texts.map (doubled bucketOfText))
    else .spread numbers texts
  | p => p

/-- Keys in buckets, with some of them there already. -/
def inBuckets (keys : Nat) : Placing → Placing
  | .empty => .spread (emptyBuckets firstSize) none
  | .run => .spread (spreadOut keys) none
  | p => p

def withTexts : Placing → Placing
  | .spread numbers none => .spread numbers (some (byText numbers))
  | p => p

/-- A key that was found or is new comes to the front. -/
def fronted (p : Placing) (k : Key) : Placing :=
  match p, k with
  | .spread numbers texts, .whole n =>
    let i := bucketOfNumber numbers.size n
    let t := toString n
    let isPlaced := ((numbers[i]?).getD []).contains n
    .spread (bring numbers i n)
      (if isPlaced then texts else texts.map fun b => bring b (bucketOfText b.size t) t)
  | .spread numbers texts, .text t =>
    .spread numbers (texts.map fun b => bring b (bucketOfText b.size t) t)
  | p, _ => p

/-- Whether keys are placed such that a key can be asked for without a change of that. -/
def answers (keys : Nat) : Placing → Key → Bool
  | .run, .whole n => 1 ≤ n && n ≤ keys
  | _, _ => false

/-- Keys placed as they are when a key is asked for. -/
def asked (keys : Nat) (p : Placing) (k : Key) : Placing :=
  let q := inBuckets keys p
  match k with
  | .whole _ => q
  | .text _ => withTexts q

end Placing

namespace Table

open Placing

def size (t : Table) : Nat := t.values.size

/-- The value of a key that is asked for, if it has one. -/
def find (t : Table) (k : Key) : Option Value × Table :=
  let v := t.values[k.shown]?
  if t.size = 0 || t.placing.answers t.size k then (v, t)
  else
    match k, t.placing, v with
    | .whole _, .run, _ => (v, t)
    | _, _, none => (v, { t with placing := t.placing.asked t.size k })
    | _, _, some _ => (v, { t with placing := (t.placing.asked t.size k).fronted k })

/-- Sets the value of a key without a change of its place. -/
def put (t : Table) (k : Key) (v : Value) : Table :=
  { t with values := t.values.insert k.shown v }

/-- The value of a key, which the table has from now on. -/
def demand (t : Table) (k : Key) : Value × Table :=
  match t.values[k.shown]? with
  | some v => (v, (t.find k).2)
  | none =>
    let p := ((t.placing.asked t.size k).grown t.size).fronted k
    (.unset, { values := t.values.insert k.shown .unset, placing := p })

/-- The number that a key is in the buckets of numbers. -/
def numberOf? (k : Key) : Option Int :=
  match k with
  | .whole n => some n
  | .text s => s.toInt?.filter fun n => toString n == s

def erase (t : Table) (k : Key) : Table :=
  match t.find k with
  | (none, t) => t
  | (some _, t) =>
    let values := t.values.erase k.shown
    if values.isEmpty then {}
    else
      let p :=
        match t.placing.asked t.size k with
        | .spread numbers texts =>
          let numbers :=
            match numberOf? k with
            | some n => leave numbers (bucketOfNumber numbers.size n) n
            | none => numbers
          .spread numbers (texts.map fun b => leave b (bucketOfText b.size k.shown) k.shown)
        | p => p
      { values, placing := p }

def keys (t : Table) : List String × Table :=
  if t.size = 0 then ([], t)
  else
    let p := (t.placing.inBuckets t.size).withTexts
    let l :=
      match p with
      | .spread _ (some texts) => texts.toList.flatten
      | _ => []
    (l, { t with placing := p })

/-- The table of some values under the numbers from one on. -/
def ofList (l : List Value) : Table :=
  if l.isEmpty then {}
  else
    let values := l.foldl
      (fun (m : Std.HashMap String Value × Nat) v => (m.1.insert (toString m.2) v, m.2 + 1)) ({}, 1)
    { values := values.1, placing := .run }

end Table

end WasmBundle.Shell.Actions
