import Mathlib.Algebra.Group.Nat.Defs
import Mathlib.Tactic.Lemma
import WasmBundle.Wasm.ImportEntry

/-!
# Fields of a binary, written and read

`Takes m b x` says that a reader takes exactly the bytes `b` off any input that begins with them,
wherever they stand and whatever follows, and gives `x`. Readers of numbers, strings and import
entries take what is written here: numbers in the fewest groups of seven bits, strings behind their
length, an entry as its namespace, its field and the item it imports. A number may as well be in
more groups than it needs.
-/

namespace WasmBundle.Proofs
open Wasm Wasm.Reader

/-- A number in at most as many groups of seven bits as are given, lowest first. Every byte but the
last has its top bit set, and the last group is not zero unless it is the only one. -/
def groups : Nat → Nat → Bytes
  | 0, _ => []
  | k + 1, n => if n < 128 then [n.toUInt8] else (n % 128 + 128).toUInt8 :: groups k (n / 128)

/-- A number below 2³² in the fewest groups. -/
def grouped (n : Nat) : Bytes := groups 5 n

/-- A text behind the length of its UTF-8 form. -/
def stringField (s : String) : Bytes := grouped (Bytes.utf8 s).length ++ Bytes.utf8 s

inductive NumberType where
  | i32
  | i64
  | f32
  | f64
  deriving DecidableEq, Repr

def NumberType.byte : NumberType → UInt8
  | .i32 => 0x7f
  | .i64 => 0x7e
  | .f32 => 0x7d
  | .f64 => 0x7c

/-- What an import entry asks for: a function by the index of its type, a memory by its least size,
or a global variable. -/
inductive ImportedItem where
  | function (type : UInt32)
  | memory (minimum : UInt32)
  | global (type : NumberType) (mutable : Bool)
  deriving DecidableEq, Repr

def ImportedItem.bytes : ImportedItem → Bytes
  | .function type => 0 :: grouped type.toNat
  | .memory minimum => 2 :: 0 :: grouped minimum.toNat
  | .global type mutable => [3, type.byte, if mutable then 1 else 0]

structure ImportEntry where
  space : String
  field : String
  item : ImportedItem
  deriving DecidableEq, Repr

def ImportEntry.bytes (entry : ImportEntry) : Bytes :=
  stringField entry.space ++ stringField entry.field ++ entry.item.bytes

/-- The texts of the entry are no longer than a string may be. -/
structure ImportEntry.Fits (entry : ImportEntry) : Prop where
  space : (Bytes.utf8 entry.space).length ≤ stringLimit
  field : (Bytes.utf8 entry.field).length ≤ stringLimit

instance : DecidablePred ImportEntry.Fits := fun entry =>
  decidable_of_iff ((Bytes.utf8 entry.space).length ≤ stringLimit ∧
    (Bytes.utf8 entry.field).length ≤ stringLimit) ⟨fun h => ⟨h.1, h.2⟩, fun h => ⟨h.1, h.2⟩⟩

/-- The reader takes `b` off any input that begins with it and gives `x`. -/
def Takes {α : Type} (m : Reader α) (b : Bytes) (x : α) : Prop :=
  ∀ offset rest, m ⟨offset, b ++ rest⟩ = .ok (x, ⟨offset + b.length, rest⟩)

lemma reader_bind_of_ok {α β : Type} {m : Reader α} {f : α → Reader β} {c d : Cursor} {x : α}
    (h : m c = .ok (x, d)) : (m >>= f) c = f x d := by
  simp only [bind, h]

lemma takes_pure {α : Type} (x : α) : Takes (pure x) [] x :=
  fun _ _ => rfl

lemma takes_bind {α β : Type} {m : Reader α} {f : α → Reader β} {b c : Bytes} {x : α} {y : β}
    (hm : Takes m b x) (hf : Takes (f x) c y) : Takes (m >>= f) (b ++ c) y := by
  intro offset rest
  rw [List.append_assoc, reader_bind_of_ok (hm offset (c ++ rest)), hf, List.length_append,
    Nat.add_assoc]

/-- A reader that ends in one of nothing. -/
lemma takes_bind_last {α β : Type} {m : Reader α} {f : α → Reader β} {b : Bytes} {x : α} {y : β}
    (hm : Takes m b x) (hf : Takes (f x) [] y) : Takes (m >>= f) b y := by
  have htakes := takes_bind hm hf
  rwa [List.append_nil] at htakes

/-- Asking for the offset takes nothing. -/
lemma takes_offset_bind {α : Type} {f : Nat → Reader α} {b : Bytes} {x : α}
    (h : ∀ start, Takes (f start) b x) : Takes (offset >>= f) b x :=
  fun start rest => h start start rest

lemma takes_byte (b : UInt8) : Takes byte [b] b :=
  fun _ _ => rfl

/-- A byte that is looked at is still to be taken. -/
lemma takes_peek_bind {α : Type} {f : UInt8 → Reader α} {b : UInt8} {r : Bytes} {x : α}
    (h : Takes (f b) (b :: r) x) : Takes (peek >>= f) (b :: r) x :=
  fun start rest => h start rest

lemma takes_block {b : Bytes} {n : Nat} (h : b.length = n) : Takes (block n) b b := by
  intro start rest
  have hhas : (⟨start, b ++ rest⟩ : Cursor).has n = true := by
    rw [Cursor.has_iff, List.length_append]
    omega
  subst h
  simp only [block, hhas, ite_true, List.take_left, Cursor.skip, List.drop_left]

lemma toNat_toUInt8 {n : Nat} (h : n < 256) : n.toUInt8.toNat = n :=
  UInt8.toNat_ofNat_of_lt' h

/-- A number in groups of seven bits, lowest first, every byte but the last marked by its top bit.
There may be more groups than the number needs. -/
inductive NumberField : Bytes → Nat → Prop
  | last {b : UInt8} (hb : b.toNat < 128) : NumberField [b] b.toNat
  | more {b : UInt8} {field : Bytes} {n : Nat} (hb : 128 ≤ b.toNat) (h : NumberField field n) :
    NumberField (b :: field) (b.toNat - 128 + 128 * n)

lemma NumberField.length_pos {field : Bytes} {n : Nat} (h : NumberField field n) :
    0 < field.length := by
  cases h <;> exact Nat.succ_pos _

/-- A number that fits the width is taken off a field that has no group too many for it. -/
theorem takes_numberField (format : IntegerFormat) {width n : Nat} {field : Bytes}
    (h : NumberField field n) (hlen : 7 * field.length < width + 7) (hn : n < 2 ^ width) :
    Takes (unsigned format width) field n := by
  -- Every group leaves a width that is less by seven bits.
  induction h generalizing width with
  | @last b hb =>
    have hpow : b.toNat < Nat.pow 2 width := hn
    intro start rest
    rw [unsigned]
    simp only [List.singleton_append, hpow, hb, ite_true, dite_eq_ite, ite_self]
    rfl
  | @more b field n hb h ih =>
    have hpos := h.length_pos
    rw [List.length_cons] at hlen
    have hwidth : ¬width ≤ 7 := by omega
    have hmore : n < 2 ^ (width - 7) := by
      have hpow : 2 ^ width = 2 ^ (width - 7) * 2 ^ 7 := by
        rw [← Nat.pow_add, Nat.sub_add_cancel (by omega)]
      omega
    intro start rest
    have hrest := ih (by omega) hmore (start + 1) rest
    rw [unsigned]
    simp only [List.cons_append, hrest, hwidth, dite_false]
    rw [if_neg (Nat.not_lt.2 hb), List.length_cons, Nat.add_right_comm]
    rfl

lemma numberField_single {n : Nat} (h : n < 128) : NumberField [n.toUInt8] n := by
  have hbyte : n.toUInt8.toNat = n := toNat_toUInt8 (by omega)
  have hlast : NumberField [n.toUInt8] n.toUInt8.toNat := .last (by omega)
  rwa [hbyte] at hlast

/-- The groups of a number are a field for it, if they are enough. -/
lemma numberField_groups {k n : Nat} (h : n < 128 ^ (k + 1)) :
    NumberField (groups (k + 1) n) n := by
  induction k generalizing n with
  | zero =>
    have hsmall : n < 128 := h
    rw [groups, if_pos hsmall]
    exact numberField_single hsmall
  | succ k ih =>
    rw [groups]
    by_cases hsmall : n < 128
    · rw [if_pos hsmall]
      exact numberField_single hsmall
    · have hbyte : (n % 128 + 128).toUInt8.toNat = n % 128 + 128 := toNat_toUInt8 (by omega)
      have hrest : NumberField (groups (k + 1) (n / 128)) (n / 128) := by
        refine ih ?_
        rw [Nat.div_lt_iff_lt_mul (by decide), ← Nat.pow_succ]
        exact h
      have htop : 128 ≤ (n % 128 + 128).toUInt8.toNat := by omega
      have hmore := NumberField.more htop hrest
      rw [if_neg hsmall]
      rwa [hbyte, Nat.add_sub_cancel, Nat.mod_add_div] at hmore

lemma length_groups_le (k n : Nat) : (groups k n).length ≤ k := by
  induction k generalizing n with
  | zero => exact Nat.le_refl 0
  | succ k ih =>
    rw [groups]
    split
    · exact Nat.le_add_left 1 k
    · exact Nat.succ_le_succ (ih (n / 128))

lemma numberField_grouped {n : Nat} (h : n < UInt32.size) : NumberField (grouped n) n :=
  numberField_groups (Nat.lt_trans h (by decide))

lemma takes_u32 {n : Nat} (h : n < UInt32.size) : Takes u32 (grouped n) n := by
  have hlength : (grouped n).length ≤ 5 := length_groups_le 5 n
  exact takes_numberField .unsigned32 (numberField_grouped h) (by omega) h

lemma takes_string {s : String} (h : (Bytes.utf8 s).length ≤ stringLimit) :
    Takes string (stringField s) s := by
  have hsize : (Bytes.utf8 s).length < UInt32.size := Nat.lt_of_le_of_lt h (by decide)
  refine takes_bind (takes_u32 hsize) (takes_offset_bind fun body => ?_)
  rw [if_neg (Nat.not_lt.2 h)]
  refine takes_bind_last (takes_block rfl) ?_
  rw [Bytes.text?_utf8]
  exact takes_pure s

lemma takes_flags {bits : Nat} {bad : Cause} {b : UInt8} (h : b.toNat < Nat.pow 2 bits) :
    Takes (flags bits bad) [b] b.toNat := by
  refine takes_offset_bind fun start => takes_bind_last (takes_byte b) ?_
  rw [if_pos h]
  exact takes_pure _

lemma takes_memoryType (minimum : UInt32) :
    Takes memoryType (0 :: grouped minimum.toNat) () := by
  have hlimits : Takes (limits 0) (grouped minimum.toNat) () :=
    takes_bind_last (takes_u32 minimum.toNat_lt) (takes_pure ())
  have hflags : Takes (flags 4 .memoryFlags) [0] 0 := takes_flags (by decide)
  exact takes_bind hflags (takes_bind_last hlimits (takes_pure ()))

lemma takes_globalType (type : NumberType) (mutable : Bool) :
    Takes globalType [type.byte, if mutable then 1 else 0] () := by
  have htype : Takes valueType [type.byte] () := by
    refine takes_peek_bind ?_
    rw [if_pos (by cases type <;> decide)]
    exact takes_bind_last (takes_byte _) (takes_pure ())
  have hflags : ∀ b : UInt8, b.toNat < 4 → Takes (flags 2 .globalFlags) [b] b.toNat :=
    fun b h => takes_flags h
  exact takes_bind htype (takes_bind_last (hflags _ (by cases mutable <;> decide)) (takes_pure ()))

lemma takes_externalType (item : ImportedItem) : Takes externalType item.bytes () := by
  refine takes_offset_bind fun start => ?_
  cases item with
  | function type =>
    exact takes_bind (takes_byte 0) (takes_bind_last (takes_u32 type.toNat_lt) (takes_pure ()))
  | memory minimum => exact takes_bind (takes_byte 2) (takes_memoryType minimum)
  | global type mutable => exact takes_bind (takes_byte 3) (takes_globalType type mutable)

/-- Of an import entry its namespace is read, and nothing else is left of it. -/
theorem takes_importEntry {entry : ImportEntry} (h : entry.Fits) :
    Takes importEntry entry.bytes entry.space := by
  rw [ImportEntry.bytes, List.append_assoc]
  exact takes_bind (takes_string h.space) (takes_bind (takes_string h.field)
    (takes_bind_last (takes_externalType entry.item) (takes_pure _)))

end WasmBundle.Proofs
