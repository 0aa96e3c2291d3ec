import WasmBundle.Proofs.ContainerLength
import WasmBundle.Proofs.ReaderAnswers

/-!
# The bounds of a reader

Lengths stand in the input and may be anything, and a reader goes on after a read that fails. It
stays inside its input all the same. `CheckedReader` does what the reader does in numbers of 64
bits, over the whole input, and has no result where a difference, a sum or a slice leaves its range;
`InRange` says that it never comes to that and that both give the same. The checksum of a container
is taken of the bytes behind its header only if there is a whole header.
-/

namespace WasmBundle.Proofs
open Container

/-- A reader that keeps its whole input and counts in 64 bits. -/
structure CheckedReader where
  data : Bytes
  offset : UInt64
  deriving DecidableEq, Repr

/-- A reading that has no result where a difference, a sum or a slice is out of range. -/
abbrev CheckedReading (α : Type) := CheckedReader → Option (Except DecodeError α × CheckedReader)

namespace CheckedReading

instance : Monad CheckedReading where
  pure x := fun r => some (.ok x, r)
  bind m f := fun r =>
    match m r with
    | none => none
    | some (.error e, r') => some (.error e, r')
    | some (.ok x, r') => f x r'

def fail {α : Type} (e : DecodeError) : CheckedReading α := fun r => some (.error e, r)

def offset : CheckedReading Nat := fun r => some (.ok r.offset.toNat, r)

def difference? (a b : UInt64) : Option UInt64 := if b ≤ a then some (a - b) else none

def sum? (a b : UInt64) : Option UInt64 :=
  if a.toNat + b.toNat < UInt64.size then some (a + b) else none

/-- The bytes from one offset to another, which must be neither before the first nor behind the end
of the input. -/
def between? (data : Bytes) (start stop : UInt64) : Option Bytes :=
  if start ≤ stop ∧ stop.toNat ≤ data.length then
    some ((data.take stop.toNat).drop start.toNat)
  else none

def slice (n : UInt64) : CheckedReading Bytes := fun r => do
  let left ← difference? (UInt64.ofNat r.data.length) r.offset
  if left < n then return (.error (.unexpectedEnd r.offset.toNat), r)
  else
    let stop ← sum? r.offset n
    let bytes ← between? r.data r.offset stop
    return (.ok bytes, ⟨r.data, stop⟩)

/-- The checksum of the input from an offset on, wherever the reader is. -/
def sumFrom (sum : Bytes → UInt32) (start : UInt64) : CheckedReading UInt32 := fun r => do
  let bytes ← between? r.data start (UInt64.ofNat r.data.length)
  return (.ok (sum bytes), r)

def u32 : CheckedReading UInt32 := do
  let b ← slice 4
  pure (UInt32.ofNat (ofLittleEndian b))

def u64 : CheckedReading UInt64 := do
  let b ← slice 8
  pure (UInt64.ofNat (ofLittleEndian b))

def text : CheckedReading String := do
  let n ← u32
  let start ← offset
  let b ← slice n.toUInt64
  match Bytes.text? b with
  | some s => pure s
  | none => fail (.invalidUtf8 start)

def blob : CheckedReading Bytes := do
  let n ← u64
  slice n

end CheckedReading

def FieldKind.checkedRead : FieldKind → CheckedReading FieldValue
  | u32 => do return .u32 (← CheckedReading.u32)
  | u64 => do return .u64 (← CheckedReading.u64)
  | text => do return .text (← CheckedReading.text)
  | blob => do return .blob (← CheckedReading.blob)

def ReadCall.checkedRead : ReadCall → CheckedReading ReadValue
  | field kind => do return .field (← kind.checkedRead)
  | slice length => do return .slice (← CheckedReading.slice length)

/-- One call after the other, as long as none is out of range. -/
def checkedCallEach : List ReadCall → CheckedReader →
    Option (List (Except DecodeError ReadValue) × CheckedReader)
  | [], r => some ([], r)
  | call :: calls, r => do
    let (answer, next) ← call.checkedRead r
    let (answers, last) ← checkedCallEach calls next
    return (answer :: answers, last)

/-- Reads the header of a container and compares the checksum with that of the input from offset 12
on. -/
def checkedHeader (sum : Bytes → UInt32) : CheckedReading Unit := do
  let found ← CheckedReading.slice 4
  if found ≠ magic then CheckedReading.fail (.invalidMagic found)
  else
    let version ← CheckedReading.u32
    if version ≠ currentVersion then CheckedReading.fail (.unsupportedVersion version)
    else
      let stored ← CheckedReading.u32
      let computed ← CheckedReading.sumFrom sum 12
      if stored ≠ computed then CheckedReading.fail (.checksumMismatch stored computed)
      else pure ()

section Range

variable {m n : Nat}

lemma ofNat_le_ofNat (h : n ≤ m) (hm : m < UInt64.size) : UInt64.ofNat n ≤ UInt64.ofNat m := by
  rw [UInt64.le_iff_toNat_le, UInt64.toNat_ofNat_of_lt' hm,
    UInt64.toNat_ofNat_of_lt' (Nat.lt_of_le_of_lt h hm)]
  exact h

lemma difference?_ofNat (h : n ≤ m) (hm : m < UInt64.size) :
    CheckedReading.difference? (UInt64.ofNat m) (UInt64.ofNat n) = some (UInt64.ofNat (m - n)) := by
  rw [CheckedReading.difference?, if_pos (ofNat_le_ofNat h hm), UInt64.ofNat_sub h]

lemma sum?_ofNat (h : m + n < UInt64.size) :
    CheckedReading.sum? (UInt64.ofNat m) (UInt64.ofNat n) = some (UInt64.ofNat (m + n)) := by
  have hm : (UInt64.ofNat m).toNat = m := UInt64.toNat_ofNat_of_lt' (by omega)
  have hn : (UInt64.ofNat n).toNat = n := UInt64.toNat_ofNat_of_lt' (by omega)
  rw [CheckedReading.sum?, hm, hn, if_pos h, UInt64.ofNat_add]

lemma between?_ofNat {data : Bytes} (h : m ≤ n) (hn : n ≤ data.length)
    (hsize : data.length < UInt64.size) :
    CheckedReading.between? data (UInt64.ofNat m) (UInt64.ofNat n) =
      some (bytesAt data m (n - m)) := by
  have hm : (UInt64.ofNat m).toNat = m := UInt64.toNat_ofNat_of_lt' (by omega)
  have hn' : (UInt64.ofNat n).toNat = n := UInt64.toNat_ofNat_of_lt' (by omega)
  rw [CheckedReading.between?, if_pos ⟨ofNat_le_ofNat h (by omega), hn'.symm ▸ hn⟩, hm, hn',
    List.drop_take]
  rfl

end Range

def checkedReaderAt (data : Bytes) (o : Nat) : CheckedReader := ⟨data, UInt64.ofNat o⟩

/-- From an offset of the input, the reader has gone on inside the input, and counting in 64 bits
comes to the same without leaving the range. -/
def InRange {γ : Type} (data : Bytes) (o : Nat) (checked : Option (γ × CheckedReader))
    (plain : γ × FieldReader) : Prop :=
  ∃ p, o ≤ p ∧ p ≤ data.length ∧ plain.2 = readerAt data p ∧
    (data.length < UInt64.size → checked = some (plain.1, checkedReaderAt data p))

section InRange

variable {α β : Type} {data : Bytes} {o : Nat}

lemma inRange_refl (ho : o ≤ data.length) (x : α) :
    InRange data o (some (x, checkedReaderAt data o)) (x, readerAt data o) :=
  ⟨o, Nat.le_refl o, ho, rfl, fun _ => rfl⟩

lemma inRange_bind {w : CheckedReading α} {m : Reading α} {g : α → CheckedReading β}
    {f : α → Reading β} (hm : InRange data o (w (checkedReaderAt data o)) (m (readerAt data o)))
    (hf : ∀ x p, p ≤ data.length → m (readerAt data o) = (.ok x, readerAt data p) →
      InRange data p (g x (checkedReaderAt data p)) (f x (readerAt data p))) :
    InRange data o ((w >>= g) (checkedReaderAt data o)) ((m >>= f) (readerAt data o)) := by
  obtain ⟨p, hop, hp, hreader, hchecked⟩ := hm
  have hread : m (readerAt data o) = ((m (readerAt data o)).1, readerAt data p) :=
    Prod.ext rfl hreader
  generalize (m (readerAt data o)).1 = result at hread hchecked
  cases result with
  | error e =>
    refine ⟨p, hop, hp, ?_, fun hsize => ?_⟩
    · simp only [bind, hread]
    · simp only [bind, hread, hchecked hsize]
  | ok x =>
    obtain ⟨p', hpp', hp', hreader', hchecked'⟩ := hf x p hp hread
    refine ⟨p', Nat.le_trans hop hpp', hp', ?_, fun hsize => ?_⟩
    · simp only [bind, hread, hreader']
    · simp only [bind, hread, hchecked hsize, hchecked' hsize]

lemma inRange_offset (ho : o ≤ data.length) :
    InRange data o (CheckedReading.offset (checkedReaderAt data o))
      (Reading.offset (readerAt data o)) := by
  refine ⟨o, Nat.le_refl o, ho, rfl, fun hsize => ?_⟩
  have hoffset : (UInt64.ofNat o).toNat = o :=
    UInt64.toNat_ofNat_of_lt' (Nat.lt_of_le_of_lt ho hsize)
  rw [CheckedReading.offset, checkedReaderAt, hoffset]
  rfl

/-- What is left is compared with the length before the two are added, so the sum is at most the
length of the input. -/
lemma inRange_slice (ho : o ≤ data.length) (n : UInt64) :
    InRange data o (CheckedReading.slice n (checkedReaderAt data o))
      (Reading.slice n.toNat (readerAt data o)) := by
  by_cases h : o + n.toNat ≤ data.length
  · rw [slice_of_le h]
    refine ⟨o + n.toNat, Nat.le_add_right o _, h, rfl, fun hsize => ?_⟩
    have hleft : ¬UInt64.ofNat (data.length - o) < n := by
      rw [UInt64.lt_iff_toNat_lt, UInt64.toNat_ofNat_of_lt' (by omega)]
      omega
    have hstop : CheckedReading.sum? (UInt64.ofNat o) n = some (UInt64.ofNat (o + n.toNat)) := by
      have hsum := sum?_ofNat (Nat.lt_of_le_of_lt h hsize)
      rwa [UInt64.ofNat_toNat] at hsum
    have hbytes := between?_ofNat (Nat.le_add_right o n.toNat) h hsize
    rw [Nat.add_sub_cancel_left] at hbytes
    simp only [CheckedReading.slice, checkedReaderAt, difference?_ofNat ho hsize, bind,
      Option.bind, if_neg hleft, hstop, hbytes]
    rfl
  · have hshort : data.length < o + n.toNat := Nat.lt_of_not_le h
    rw [slice_of_lt ho hshort]
    refine ⟨o, Nat.le_refl o, ho, rfl, fun hsize => ?_⟩
    have hleft : UInt64.ofNat (data.length - o) < n := by
      rw [UInt64.lt_iff_toNat_lt, UInt64.toNat_ofNat_of_lt' (by omega)]
      omega
    have hoffset : (UInt64.ofNat o).toNat = o := UInt64.toNat_ofNat_of_lt' (by omega)
    simp only [CheckedReading.slice, checkedReaderAt, difference?_ofNat ho hsize, bind,
      Option.bind, if_pos hleft, hoffset]
    rfl

lemma inRange_u32 (ho : o ≤ data.length) :
    InRange data o (CheckedReading.u32 (checkedReaderAt data o)) (Reading.u32 (readerAt data o)) :=
  inRange_bind (inRange_slice ho 4) fun _ _ hp _ => inRange_refl hp _

lemma inRange_u64 (ho : o ≤ data.length) :
    InRange data o (CheckedReading.u64 (checkedReaderAt data o)) (Reading.u64 (readerAt data o)) :=
  inRange_bind (inRange_slice ho 8) fun _ _ hp _ => inRange_refl hp _

lemma inRange_text (ho : o ≤ data.length) :
    InRange data o (CheckedReading.text (checkedReaderAt data o))
      (Reading.text (readerAt data o)) := by
  refine inRange_bind (inRange_u32 ho) fun n p hp _ => ?_
  refine inRange_bind (inRange_offset hp) fun start p hp _ => ?_
  have hslice := inRange_slice hp n.toUInt64
  rw [UInt32.toNat_toUInt64] at hslice
  refine inRange_bind hslice fun b p hp _ => ?_
  cases Bytes.text? b with
  | some s => exact inRange_refl hp _
  | none => exact inRange_refl hp _

lemma inRange_blob (ho : o ≤ data.length) :
    InRange data o (CheckedReading.blob (checkedReaderAt data o))
      (Reading.blob (readerAt data o)) :=
  inRange_bind (inRange_u64 ho) fun n _ hp _ => inRange_slice hp n

theorem inRange_call (ho : o ≤ data.length) (call : ReadCall) :
    InRange data o (call.checkedRead (checkedReaderAt data o)) (call.read (readerAt data o)) := by
  refine match call with
    | .field .u32 => inRange_bind (inRange_bind (inRange_u32 ho) ?_) ?_
    | .field .u64 => inRange_bind (inRange_bind (inRange_u64 ho) ?_) ?_
    | .field .text => inRange_bind (inRange_bind (inRange_text ho) ?_) ?_
    | .field .blob => inRange_bind (inRange_bind (inRange_blob ho) ?_) ?_
    | .slice length => inRange_bind (inRange_slice ho length) ?_
  all_goals exact fun _ _ hp _ => inRange_refl hp _

theorem inRange_callEach (calls : List ReadCall) (ho : o ≤ data.length) :
    InRange data o (checkedCallEach calls (checkedReaderAt data o))
      (callEach calls (readerAt data o)) := by
  induction calls generalizing o with
  | nil => exact inRange_refl ho _
  | cons call calls ih =>
    obtain ⟨p, hop, hp, hreader, hchecked⟩ := inRange_call ho call
    obtain ⟨p', hpp', hp', hreader', hchecked'⟩ := ih hp
    refine ⟨p', Nat.le_trans hop hpp', hp', ?_, fun hsize => ?_⟩
    · simp only [callEach, hreader, hreader']
    · simp only [checkedCallEach, callEach, hchecked hsize, hchecked' hsize, hreader, bind,
        Option.bind]
      rfl

lemma offset_of_slice {n p : Nat} {b : Bytes}
    (h : Reading.slice n (readerAt data o) = (.ok b, readerAt data p)) : p = o + n := by
  unfold Reading.slice at h
  split_ifs at h
  · exact (congrArg FieldReader.offset (Prod.mk.inj h).2).symm
  · cases (Prod.mk.inj h).1

lemma offset_of_u32 {n : UInt32} {p : Nat}
    (h : Reading.u32 (readerAt data o) = (.ok n, readerAt data p)) : p = o + 4 := by
  obtain ⟨b, q, hslice, h⟩ := ok_of_bind h
  cases h
  exact offset_of_slice hslice

/-- Where the reader has come to, the slice to the end of the input is what the reader has left. -/
lemma inRange_sumFrom {start : UInt64} (ho : o ≤ data.length) (hstart : start.toNat = o)
    (sum : Bytes → UInt32) :
    InRange data o (CheckedReading.sumFrom sum start (checkedReaderAt data o))
      (.ok (sum (readerAt data o).rest), readerAt data o) := by
  refine ⟨o, Nat.le_refl o, ho, rfl, fun hsize => ?_⟩
  have hrest : bytesAt data o (data.length - o) = data.drop o :=
    List.take_of_length_le (Nat.le_of_eq List.length_drop)
  have hbytes := between?_ofNat ho (Nat.le_refl _) hsize
  rw [hrest, ← hstart, UInt64.ofNat_toNat, hstart] at hbytes
  simp only [CheckedReading.sumFrom, checkedReaderAt, hbytes, bind, Option.bind]
  rfl

theorem inRange_header (sum : Bytes → UInt32) (data : Bytes) :
    InRange data 0 (checkedHeader sum (checkedReaderAt data 0))
      (readHeader sum (readerAt data 0)) := by
  refine inRange_bind (inRange_slice (Nat.zero_le _) 4) fun found p hp hfound => ?_
  cases offset_of_slice hfound
  split_ifs
  · exact inRange_refl hp _
  · refine inRange_bind (inRange_u32 hp) fun version p hp hversion => ?_
    cases offset_of_u32 hversion
    split_ifs
    · exact inRange_refl hp _
    · refine inRange_bind (inRange_u32 hp) fun stored p hp hstored => ?_
      cases offset_of_u32 hstored
      -- Three reads of four bytes have succeeded, so the slice from offset 12 on is there.
      refine inRange_bind (inRange_sumFrom hp rfl sum) fun computed p hp _ => ?_
      split_ifs
      · exact inRange_refl hp _
      · exact inRange_refl hp _

/-- The checksum is asked for the bytes behind the header if there is a whole one, and for no
others. -/
theorem decodeWith_congr {sum sum' : Bytes → UInt32}
    (h : headerSize ≤ data.length → sum (data.drop headerSize) = sum' (data.drop headerSize)) :
    decodeWith sum data = decodeWith sum' data := by
  by_cases hheader : headerSize ≤ data.length
  · have hsum : sum (data.drop 12) = sum' (data.drop 12) := h hheader
    rw [decodeWith_eq hheader, decodeWith_eq hheader, hsum]
  · rcases hread : readSignature (.start data) with ⟨result, q⟩
    cases result with
    | ok stored => exact absurd (length_of_readSignature hread) hheader
    | error e =>
      have herror : (readSignature (.start data)).1 = .error e := congrArg Prod.fst hread
      rw [decodeWith_of_signature_error herror, decodeWith_of_signature_error herror]

end InRange

/-- Wherever a sequence of calls has brought the reader of an input, failed ones among them, it
stands inside the input and has everything behind its offset left, which no further call makes more.
What any further call gives, and how much it takes if it fails, is as `CallGives` says. Counting in
64 bits, the same calls come to the same without a difference, a sum or a slice out of range; and so
does reading the header of a container, whose checksum is compared with one of the input from offset
12 on, which is asked for only if the input is at least that long. -/
theorem reader_stays_inside (data : Bytes) (calls : List ReadCall) :
    let r := (callEach calls (.start data)).2
    (r.offset ≤ data.length ∧ r.rest = data.drop r.offset ∧
      r.offset + r.remaining = data.length) ∧
    (∀ call : ReadCall,
      CallGives data r.offset call (call.read r).1 (call.read r).2.offset ∧
        (call.read r).2.remaining ≤ r.remaining) ∧
    (data.length < UInt64.size →
      checkedCallEach calls ⟨data, 0⟩ =
        some ((callEach calls (.start data)).1, ⟨data, UInt64.ofNat r.offset⟩)) ∧
    ∀ sum : Bytes → UInt32,
      (data.length < UInt64.size →
        checkedHeader sum ⟨data, 0⟩ =
          some ((readHeader sum (.start data)).1,
            ⟨data, UInt64.ofNat (readHeader sum (.start data)).2.offset⟩)) ∧
      ∀ sum' : Bytes → UInt32, (12 ≤ data.length → sum (data.drop 12) = sum' (data.drop 12)) →
        decodeWith sum data = decodeWith sum' data := by
  dsimp only
  obtain ⟨o, -, ho, hreader, hchecked⟩ := inRange_callEach calls (Nat.zero_le data.length)
  have hstart : (callEach calls (.start data)).2 = readerAt data o := hreader
  rw [hstart]
  refine ⟨⟨ho, rfl, add_remaining_readerAt ho⟩, fun call => ?_, hchecked, fun sum => ⟨?_, ?_⟩⟩
  · obtain ⟨answer, p, hread, hanswer⟩ := isAnswered ho call
    obtain ⟨p', hop, hp, hreader', -⟩ := inRange_call ho call
    rw [hread] at hreader' ⊢
    have hpp' : p = p' := congrArg FieldReader.offset hreader'
    have hbefore := add_remaining_readerAt ho
    have hafter := add_remaining_readerAt (hpp' ▸ hp : p ≤ data.length)
    refine ⟨hanswer, ?_⟩
    dsimp only
    omega
  · intro hsize
    obtain ⟨p, -, -, hreader', hchecked'⟩ := inRange_header sum data
    have hheader : (readHeader sum (.start data)).2 = readerAt data p := hreader'
    rw [hheader]
    exact hchecked' hsize
  · exact fun sum' hsum => decodeWith_congr hsum

/-- The length of a blob that is as long as can be, then that of a text of two bytes that are not
UTF-8. -/
def overlongInput : Bytes := littleEndian 8 0xffffffffffffffff ++ [2, 0, 0, 0, 0xff, 0x41]

/-- Every call fails, each in another way. -/
theorem reader_stays_inside_overlong : overlongInput.length < UInt64.size ∧
    checkedCallEach [.slice 0xffffffffffffffff, .field .blob, .field .text, .field .u32]
        ⟨overlongInput, 0⟩ =
      some ([.error (.unexpectedEnd 0), .error (.unexpectedEnd 8), .error (.invalidUtf8 12),
        .error (.unexpectedEnd 14)], ⟨overlongInput, 14⟩) := by
  have hsize : overlongInput.length < UInt64.size := by decide
  have hrun : callEach [.slice 0xffffffffffffffff, .field .blob, .field .text, .field .u32]
      (.start overlongInput) =
        ([.error (.unexpectedEnd 0), .error (.unexpectedEnd 8), .error (.invalidUtf8 12),
          .error (.unexpectedEnd 14)], ⟨14, []⟩) := by
    decide
  obtain ⟨-, -, hchecked, -⟩ := reader_stays_inside overlongInput
    [.slice 0xffffffffffffffff, .field .blob, .field .text, .field .u32]
  rw [hrun] at hchecked
  exact ⟨hsize, hchecked hsize⟩

end WasmBundle.Proofs
