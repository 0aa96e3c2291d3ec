import WasmBundle.Proofs.ContainerCorruption

/-!
# What a reader answers

A reader that has come to an offset of its input has everything behind that offset left. `CallGives`
says, by the input and the offset alone, what each call of the reader gives there and where it
leaves the reader, also when it fails: nothing is consumed of a number or a slice, and of a text or
a blob at most the length in front, unless all the bytes of a text are there and are not UTF-8.
-/

namespace WasmBundle.Proofs
open Container

/-- A read of a field, or of as many bytes as are asked for. -/
inductive ReadCall where
  | field (kind : FieldKind)
  | slice (length : UInt64)
  deriving DecidableEq, Repr

inductive ReadValue where
  | field (value : FieldValue)
  | slice (bytes : Bytes)
  deriving DecidableEq, Repr

/-- The size of a number, or of the length in front of a text or a blob. -/
def FieldKind.width : FieldKind → Nat
  | u32 | text => 4
  | u64 | blob => 8

/-- A length stands in front of the field. -/
def FieldKind.IsSized (kind : FieldKind) : Prop := kind = text ∨ kind = blob

namespace ReadCall

/-- How many bytes a call takes, or takes first if these tell how many more there are. -/
def width : ReadCall → Nat
  | field kind => kind.width
  | slice length => length.toNat

def read : ReadCall → Reading ReadValue
  | field kind => do return .field (← kind.read)
  | slice length => do return .slice (← Reading.slice length.toNat)

end ReadCall

/-- Makes one call after the other, each where the one before has left the reader, even if that one
failed. -/
def callEach : List ReadCall → FieldReader → List (Except DecodeError ReadValue) × FieldReader
  | [], r => ([], r)
  | call :: calls, r =>
    let (answer, next) := call.read r
    let (answers, last) := callEach calls next
    (answer :: answers, last)

/-- The reader that has come to an offset of the input. -/
def readerAt (data : Bytes) (o : Nat) : FieldReader := ⟨o, data.drop o⟩

def bytesAt (data : Bytes) (o n : Nat) : Bytes := (data.drop o).take n

def numberAt (data : Bytes) (o k : Nat) : Nat := ofLittleEndian (bytesAt data o k)

/-- What a call gives at an offset of the input, and the offset at which it leaves the reader. -/
inductive CallGives (data : Bytes) (o : Nat) :
    ReadCall → Except DecodeError ReadValue → Nat → Prop
  | u32 (fits : o + 4 ≤ data.length) :
    CallGives data o (.field .u32) (.ok (.field (.u32 (UInt32.ofNat (numberAt data o 4))))) (o + 4)
  | u64 (fits : o + 8 ≤ data.length) :
    CallGives data o (.field .u64) (.ok (.field (.u64 (UInt64.ofNat (numberAt data o 8))))) (o + 8)
  | slice (length : UInt64) (fits : o + length.toNat ≤ data.length) :
    CallGives data o (.slice length) (.ok (.slice (bytesAt data o length.toNat)))
      (o + length.toNat)
  | text (s : String) (fits : o + 4 + numberAt data o 4 ≤ data.length)
      (valid : bytesAt data (o + 4) (numberAt data o 4) = Bytes.utf8 s) :
    CallGives data o (.field .text) (.ok (.field (.text s))) (o + 4 + numberAt data o 4)
  | blob (fits : o + 8 + numberAt data o 8 ≤ data.length) :
    CallGives data o (.field .blob)
      (.ok (.field (.blob (bytesAt data (o + 8) (numberAt data o 8))))) (o + 8 + numberAt data o 8)
  /-- Not even the number, the slice or the length in front is there: nothing is consumed. -/
  | tooShort (call : ReadCall) (short : data.length < o + call.width) :
    CallGives data o call (.error (.unexpectedEnd o)) o
  /-- The length in front is there, but not as many bytes behind it: only the length is consumed. -/
  | bodyTooShort (kind : FieldKind) (sized : kind.IsSized) (fits : o + kind.width ≤ data.length)
      (short : data.length < o + kind.width + numberAt data o kind.width) :
    CallGives data o (.field kind) (.error (.unexpectedEnd (o + kind.width))) (o + kind.width)
  /-- All the bytes of the text are there and are consumed. -/
  | notText (fits : o + 4 + numberAt data o 4 ≤ data.length)
      (invalid : ∀ s, bytesAt data (o + 4) (numberAt data o 4) ≠ Bytes.utf8 s) :
    CallGives data o (.field .text) (.error (.invalidUtf8 (o + 4))) (o + 4 + numberAt data o 4)

section Reader

variable {data : Bytes} {o : Nat}

lemma add_remaining_readerAt (ho : o ≤ data.length) :
    o + (readerAt data o).remaining = data.length := by
  have hremaining : (readerAt data o).remaining = data.length - o := List.length_drop
  omega

lemma bind_eq_of_error {α β : Type} {m : Reading α} {f : α → Reading β} {r r' : FieldReader}
    {e : DecodeError} (h : m r = (.error e, r')) : (m >>= f) r = (.error e, r') := by
  simp only [bind, h]

lemma slice_of_le {n : Nat} (h : o + n ≤ data.length) :
    Reading.slice n (readerAt data o) = (.ok (bytesAt data o n), readerAt data (o + n)) := by
  have hn : n ≤ (readerAt data o).rest.length := by
    rw [readerAt, List.length_drop]
    omega
  rw [slice_eq hn, readerAt, readerAt, List.drop_drop]
  rfl

/-- From behind the end of the input, the empty slice could still be read. -/
lemma slice_of_lt {n : Nat} (ho : o ≤ data.length) (h : data.length < o + n) :
    Reading.slice n (readerAt data o) = (.error (.unexpectedEnd o), readerAt data o) := by
  have hn : ¬n ≤ (readerAt data o).rest.length := by
    rw [readerAt, List.length_drop]
    omega
  rw [Reading.slice, if_neg hn]
  rfl

lemma u32_of_le (h : o + 4 ≤ data.length) : Reading.u32 (readerAt data o) =
    (.ok (UInt32.ofNat (numberAt data o 4)), readerAt data (o + 4)) :=
  bind_of_ok (slice_of_le h)

lemma u32_of_lt (ho : o ≤ data.length) (h : data.length < o + 4) :
    Reading.u32 (readerAt data o) = (.error (.unexpectedEnd o), readerAt data o) :=
  bind_eq_of_error (slice_of_lt ho h)

lemma u64_of_le (h : o + 8 ≤ data.length) : Reading.u64 (readerAt data o) =
    (.ok (UInt64.ofNat (numberAt data o 8)), readerAt data (o + 8)) :=
  bind_of_ok (slice_of_le h)

lemma u64_of_lt (ho : o ≤ data.length) (h : data.length < o + 8) :
    Reading.u64 (readerAt data o) = (.error (.unexpectedEnd o), readerAt data o) :=
  bind_eq_of_error (slice_of_lt ho h)

lemma numberAt_lt (data : Bytes) (o k : Nat) : numberAt data o k < 256 ^ k :=
  ofLittleEndian_lt (List.length_take_le k _)

/-- A text whose length is there. -/
lemma text_of_le (h : o + 4 ≤ data.length) : Reading.text (readerAt data o) =
    (Reading.slice (numberAt data o 4) >>= fun b =>
      match Bytes.text? b with
      | some s => pure s
      | none => Reading.fail (.invalidUtf8 (o + 4))) (readerAt data (o + 4)) := by
  rw [Reading.text, bind_of_ok (u32_of_le h), UInt32.toNat_ofNat_of_lt' (numberAt_lt data o 4)]
  rfl

/-- A blob whose length is there. -/
lemma blob_of_le (h : o + 8 ≤ data.length) : Reading.blob (readerAt data o) =
    Reading.slice (numberAt data o 8) (readerAt data (o + 8)) := by
  rw [Reading.blob, bind_of_ok (u64_of_le h), UInt64.toNat_ofNat_of_lt' (numberAt_lt data o 8)]

/-- The call gives an answer and leaves the reader at an offset of the input. -/
def IsAnswered (data : Bytes) (o : Nat) (call : ReadCall) : Prop :=
  ∃ answer p, call.read (readerAt data o) = (answer, readerAt data p) ∧
    CallGives data o call answer p

lemma isAnswered_u32 (ho : o ≤ data.length) : IsAnswered data o (.field .u32) := by
  by_cases h : o + 4 ≤ data.length
  · exact ⟨_, _, bind_of_ok (bind_of_ok (u32_of_le h)), .u32 h⟩
  · have hshort : data.length < o + 4 := Nat.lt_of_not_le h
    exact ⟨_, _, bind_eq_of_error (bind_eq_of_error (u32_of_lt ho hshort)), .tooShort _ hshort⟩

lemma isAnswered_u64 (ho : o ≤ data.length) : IsAnswered data o (.field .u64) := by
  by_cases h : o + 8 ≤ data.length
  · exact ⟨_, _, bind_of_ok (bind_of_ok (u64_of_le h)), .u64 h⟩
  · have hshort : data.length < o + 8 := Nat.lt_of_not_le h
    exact ⟨_, _, bind_eq_of_error (bind_eq_of_error (u64_of_lt ho hshort)), .tooShort _ hshort⟩

lemma isAnswered_text (ho : o ≤ data.length) : IsAnswered data o (.field .text) := by
  by_cases h : o + 4 ≤ data.length
  · by_cases hbody : o + 4 + numberAt data o 4 ≤ data.length
    · have hread := (text_of_le h).trans (bind_of_ok (slice_of_le hbody))
      cases htext : Bytes.text? (bytesAt data (o + 4) (numberAt data o 4)) with
      | some s =>
        rw [htext] at hread
        exact ⟨_, _, bind_of_ok (bind_of_ok hread), .text s hbody (Bytes.text?_eq_some_iff.1 htext)⟩
      | none =>
        rw [htext] at hread
        refine ⟨_, _, bind_eq_of_error (bind_eq_of_error hread), .notText hbody fun s hs => ?_⟩
        cases htext.symm.trans (Bytes.text?_eq_some_iff.2 hs)
    · have hshort : data.length < o + 4 + numberAt data o 4 := Nat.lt_of_not_le hbody
      have hread := (text_of_le h).trans (bind_eq_of_error (slice_of_lt h hshort))
      exact ⟨_, _, bind_eq_of_error (bind_eq_of_error hread),
        .bodyTooShort .text (.inl rfl) h hshort⟩
  · have hshort : data.length < o + 4 := Nat.lt_of_not_le h
    have hread := u32_of_lt ho hshort
    exact ⟨_, _, bind_eq_of_error (bind_eq_of_error (bind_eq_of_error hread)), .tooShort _ hshort⟩

lemma isAnswered_blob (ho : o ≤ data.length) : IsAnswered data o (.field .blob) := by
  by_cases h : o + 8 ≤ data.length
  · by_cases hbody : o + 8 + numberAt data o 8 ≤ data.length
    · have hread := (blob_of_le h).trans (slice_of_le hbody)
      exact ⟨_, _, bind_of_ok (bind_of_ok hread), .blob hbody⟩
    · have hshort : data.length < o + 8 + numberAt data o 8 := Nat.lt_of_not_le hbody
      have hread := (blob_of_le h).trans (slice_of_lt h hshort)
      exact ⟨_, _, bind_eq_of_error (bind_eq_of_error hread),
        .bodyTooShort .blob (.inr rfl) h hshort⟩
  · have hshort : data.length < o + 8 := Nat.lt_of_not_le h
    have hread := u64_of_lt ho hshort
    exact ⟨_, _, bind_eq_of_error (bind_eq_of_error (bind_eq_of_error hread)), .tooShort _ hshort⟩

lemma isAnswered_slice (ho : o ≤ data.length) (length : UInt64) :
    IsAnswered data o (.slice length) := by
  by_cases h : o + length.toNat ≤ data.length
  · exact ⟨_, _, bind_of_ok (slice_of_le h), .slice length h⟩
  · have hshort : data.length < o + length.toNat := Nat.lt_of_not_le h
    exact ⟨_, _, bind_eq_of_error (slice_of_lt ho hshort), .tooShort _ hshort⟩

theorem isAnswered (ho : o ≤ data.length) (call : ReadCall) : IsAnswered data o call := by
  cases call with
  | field kind =>
    cases kind with
    | u32 => exact isAnswered_u32 ho
    | u64 => exact isAnswered_u64 ho
    | text => exact isAnswered_text ho
    | blob => exact isAnswered_blob ho
  | slice length => exact isAnswered_slice ho length

end Reader

end WasmBundle.Proofs
