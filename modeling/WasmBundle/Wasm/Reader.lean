import WasmBundle.Wasm.Malformed

/-!
# Reading a binary

A reader takes a cursor, the unread bytes with the offset of the first of them, and gives a value
with the cursor after it, or the fault it met. The primitive readers are bytes, blocks, integers in
groups of seven bits, and strings. A reader that gives an integer has read at least one byte, which
is what lets the sections of a binary be read one after another.
-/

namespace WasmBundle.Wasm

structure Cursor where
  offset : Nat
  rest : Bytes
  deriving DecidableEq, Repr

namespace Cursor

def start (b : Bytes) : Cursor := ⟨0, b⟩

/-- Whether `n` bytes are left. -/
def has (n : Nat) (c : Cursor) : Bool := hasFrom n c.rest
where
  hasFrom : Nat → Bytes → Bool
    | 0, _ => true
    | _ + 1, [] => false
    | n + 1, _ :: r => hasFrom n r

theorem has_iff {n : Nat} {c : Cursor} : c.has n ↔ n ≤ c.rest.length := by
  have main : ∀ (n : Nat) (b : Bytes), has.hasFrom n b ↔ n ≤ b.length := by
    intro n
    induction n with
    | zero => simp [has.hasFrom]
    | succ n ih =>
      intro b
      cases b with
      | nil => simp [has.hasFrom]
      | cons x r => simp [has.hasFrom, ih r]
  exact main n c.rest

/-- The cursor `n` bytes on. -/
def skip (n : Nat) (c : Cursor) : Cursor := ⟨c.offset + n, c.rest.drop n⟩

/-- The cursor limited to the next `n` bytes. -/
def window (n : Nat) (c : Cursor) : Cursor := ⟨c.offset, c.rest.take n⟩

end Cursor

abbrev Reader (α : Type) := Cursor → Except Malformed (α × Cursor)

namespace Reader

instance : Monad Reader where
  pure x := fun c => .ok (x, c)
  bind r f := fun c =>
    match r c with
    | .error e => .error e
    | .ok (x, d) => f x d

def fail {α : Type} (cause : Cause) (offset : Nat) : Reader α := fun _ => .error ⟨cause, offset⟩

/-- Where the next byte stands. -/
def offset : Reader Nat := fun c => .ok (c.offset, c)

def atEnd : Reader Bool := fun c => .ok (c.rest.isEmpty, c)

def byte : Reader UInt8 := fun c =>
  match c.rest with
  | [] => .error ⟨.unexpectedEnd, c.offset⟩
  | b :: r => .ok (b, ⟨c.offset + 1, r⟩)

/-- The next byte, left unread. -/
def peek : Reader UInt8 := fun c =>
  match c.rest with
  | [] => .error ⟨.unexpectedEnd, c.offset⟩
  | b :: _ => .ok (b, c)

/-- The next `n` bytes, all of which must be there. -/
def block (n : Nat) : Reader Bytes := fun c =>
  if c.has n then .ok (c.rest.take n, c.skip n) else .error ⟨.unexpectedEnd, c.offset⟩

/-- Groups of seven bits, lowest first, every byte but the last marked by its top bit. The last
group that fits the width must not reach beyond it. -/
def unsigned (format : IntegerFormat) (width : Nat) : Reader Nat := fun c =>
  match c.rest with
  | [] => .error ⟨.unexpectedEnd, c.offset⟩
  | b :: r =>
    if _h : width ≤ 7 then
      if b.toNat < Nat.pow 2 width then .ok (b.toNat, ⟨c.offset + 1, r⟩)
      else if b.toNat < 128 then .error ⟨.integerTooLarge format, c.offset⟩
      else .error ⟨.integerTooLong format, c.offset⟩
    else if b.toNat < 128 then .ok (b.toNat, ⟨c.offset + 1, r⟩)
    else
      match unsigned format (width - 7) ⟨c.offset + 1, r⟩ with
      | .error e => .error e
      | .ok (n, e) => .ok (b.toNat - 128 + 128 * n, e)
termination_by width

def u32 : Reader Nat := unsigned .unsigned32 32

def u64 : Reader Nat := unsigned .unsigned64 64

/-- The same groups for a signed integer: the top bit of the last group is the sign, and in a group
cut off by the width all bits from the sign on are equal. -/
def signed (format : IntegerFormat) (width : Nat) : Reader Int := fun c =>
  match c.rest with
  | [] => .error ⟨.unexpectedEnd, c.offset⟩
  | b :: r =>
    if _h : width ≤ 7 then
      if b.toNat < Nat.pow 2 (width - 1) then .ok (b.toNat, ⟨c.offset + 1, r⟩)
      else if 128 - Nat.pow 2 (width - 1) ≤ b.toNat ∧ b.toNat < 128 then
        .ok ((b.toNat : Int) - 128, ⟨c.offset + 1, r⟩)
      else .error ⟨.integerTooLong format, c.offset⟩
    else if b.toNat < 64 then .ok (b.toNat, ⟨c.offset + 1, r⟩)
    else if b.toNat < 128 then .ok ((b.toNat : Int) - 128, ⟨c.offset + 1, r⟩)
    else
      match signed format (width - 7) ⟨c.offset + 1, r⟩ with
      | .error e => .error e
      | .ok (n, e) => .ok ((b.toNat : Int) - 128 + 128 * n, e)
termination_by width

def s33 : Reader Int := signed .signed33 33

/-- The longest string a name may be. -/
def stringLimit : Nat := 100000

/-- A length and as many bytes of UTF-8. A length beyond the limit and bytes that are no text are
reported at the last byte read. -/
def string : Reader String := do
  let n ← u32
  let body ← offset
  if stringLimit < n then fail .stringSize (body - 1)
  else
    let b ← block n
    match Bytes.text? b with
    | some s => pure s
    | none => fail .stringEncoding (body + n - 1)

theorem unsigned_shrinks {format : IntegerFormat} {width n : Nat} {c d : Cursor}
    (h : unsigned format width c = .ok (n, d)) : d.rest.length < c.rest.length := by
  induction width using Nat.strongRecOn generalizing c n d with
  | ind width ih =>
    rw [unsigned] at h
    split at h
    · cases h
    · rename_i b r hr
      simp only [hr, List.length_cons]
      split at h
      · split at h
        · cases h; exact Nat.lt_succ_self _
        · split at h <;> cases h
      · split at h
        · cases h; exact Nat.lt_succ_self _
        · split at h
          · cases h
          · rename_i hw _ m e he
            cases h
            exact Nat.lt_trans (ih (width - 7) (by omega) he) (Nat.lt_succ_self _)

end Reader

end WasmBundle.Wasm
