import Mathlib.Algebra.Group.Nat.Defs
import Mathlib.Tactic.Lemma
import WasmBundle.Container.Field

/-!
# Fields read back

`Reads m b x` says that a reading takes exactly the bytes `b` off any input that begins with them,
whatever follows, and gives `x`. Such readings compose, so what a sequence of fields reads back is
put together from what each field reads back: fields are written one behind the other and carry no
mark of what they are, but what is left unread of one is where the next one begins.
-/

namespace WasmBundle.Proofs
open Container

lemma length_littleEndian (k n : Nat) : (littleEndian k n).length = k := by
  induction k generalizing n with
  | zero => rfl
  | succ k ih => simp only [littleEndian, List.length_cons, ih]

lemma ofLittleEndian_littleEndian (k n : Nat) (h : n < 256 ^ k) :
    ofLittleEndian (littleEndian k n) = n := by
  induction k generalizing n with
  | zero =>
    have hn : n = 0 := by simpa using h
    rw [hn]
    rfl
  | succ k ih =>
    have hdiv : n / 256 < 256 ^ k := by
      rw [Nat.div_lt_iff_lt_mul (by decide)]
      simpa only [Nat.pow_succ] using h
    have hbyte : (n % 256).toUInt8.toNat = n % 256 := by
      simp only [Nat.toUInt8_eq, UInt8.toNat_ofNat']
      omega
    simp only [littleEndian, ofLittleEndian, ih _ hdiv, hbyte]
    omega

lemma littleEndian_ofLittleEndian (b : Bytes) :
    littleEndian b.length (ofLittleEndian b) = b ∧ ofLittleEndian b < 256 ^ b.length := by
  induction b with
  | nil => exact ⟨rfl, Nat.one_pos⟩
  | cons x b ih =>
    obtain ⟨hbytes, hlt⟩ := ih
    have hx : x.toNat < 256 := x.toNat_lt
    have hmod : (x.toNat + 256 * ofLittleEndian b) % 256 = x.toNat := by omega
    have hdiv : (x.toNat + 256 * ofLittleEndian b) / 256 = ofLittleEndian b := by omega
    rw [ofLittleEndian, List.length_cons, littleEndian, hmod, hdiv, hbytes, Nat.pow_succ]
    refine ⟨?_, by omega⟩
    simp

/-- Equally many bytes are the same if they are the same number. -/
lemma ofLittleEndian_injective {b c : Bytes} (hlen : b.length = c.length)
    (h : ofLittleEndian b = ofLittleEndian c) : b = c := by
  rw [← (littleEndian_ofLittleEndian b).1, ← (littleEndian_ofLittleEndian c).1, hlen, h]

lemma ofLittleEndian_lt {b : Bytes} {k : Nat} (h : b.length ≤ k) : ofLittleEndian b < 256 ^ k :=
  Nat.lt_of_lt_of_le (littleEndian_ofLittleEndian b).2 (Nat.pow_le_pow_right (by decide) h)

/-- Equally many bytes, at most four, are the same if they are the same number of 32 bits. -/
lemma eq_of_ofNat_ofLittleEndian {b c : Bytes} (hlen : b.length = c.length) (hfour : c.length ≤ 4)
    (h : UInt32.ofNat (ofLittleEndian b) = UInt32.ofNat (ofLittleEndian c)) : b = c := by
  have hb : ofLittleEndian b < UInt32.size := ofLittleEndian_lt (hlen ▸ hfour)
  have hc : ofLittleEndian c < UInt32.size := ofLittleEndian_lt hfour
  have hvalue := congrArg UInt32.toNat h
  rw [UInt32.toNat_ofNat_of_lt' hb, UInt32.toNat_ofNat_of_lt' hc] at hvalue
  exact ofLittleEndian_injective hlen hvalue

/-- The reading takes `b` off any input that begins with it and gives `x`. -/
def Reads {α : Type} (m : Reading α) (b : Bytes) (x : α) : Prop :=
  ∀ offset rest, m ⟨offset, b ++ rest⟩ = (.ok x, ⟨offset + b.length, rest⟩)

lemma bind_of_ok {α β : Type} {m : Reading α} {f : α → Reading β} {r r' : FieldReader} {x : α}
    (h : m r = (.ok x, r')) : (m >>= f) r = f x r' := by
  simp only [bind, h]

lemma reads_pure {α : Type} (x : α) : Reads (pure x) [] x :=
  fun _ _ => rfl

lemma reads_bind {α β : Type} {m : Reading α} {f : α → Reading β} {b c : Bytes} {x : α} {y : β}
    (hm : Reads m b x) (hf : Reads (f x) c y) : Reads (m >>= f) (b ++ c) y := by
  intro offset rest
  rw [List.append_assoc, bind_of_ok (hm offset (c ++ rest)), hf, List.length_append, Nat.add_assoc]

/-- A reading that ends in one of nothing. -/
lemma reads_bind_last {α β : Type} {m : Reading α} {f : α → Reading β} {b : Bytes} {x : α} {y : β}
    (hm : Reads m b x) (hf : Reads (f x) [] y) : Reads (m >>= f) b y := by
  have hread := reads_bind hm hf
  rwa [List.append_nil] at hread

/-- Asking for the offset reads nothing. -/
lemma reads_offset_bind {α : Type} {f : Nat → Reading α} {b : Bytes} {x : α}
    (h : ∀ offset, Reads (f offset) b x) : Reads (Reading.offset >>= f) b x :=
  fun offset rest => h offset offset rest

lemma reads_slice (b : Bytes) : Reads (Reading.slice b.length) b b := by
  intro offset rest
  simp only [Reading.slice, List.length_append, Nat.le_add_right, ite_true, List.take_left,
    List.drop_left]

lemma reads_slice_of_length {b : Bytes} {n : Nat} (h : b.length = n) :
    Reads (Reading.slice n) b b :=
  h ▸ reads_slice b

lemma reads_u32 {n : Nat} (h : n < UInt32.size) :
    Reads Reading.u32 (littleEndian 4 n) (UInt32.ofNat n) := by
  refine reads_bind_last (reads_slice_of_length (length_littleEndian 4 n)) ?_
  rw [ofLittleEndian_littleEndian 4 n h]
  exact reads_pure _

lemma reads_u64 {n : Nat} (h : n < UInt64.size) :
    Reads Reading.u64 (littleEndian 8 n) (UInt64.ofNat n) := by
  refine reads_bind_last (reads_slice_of_length (length_littleEndian 8 n)) ?_
  rw [ofLittleEndian_littleEndian 8 n h]
  exact reads_pure _

/-- The bytes of a text in a container: the length of its UTF-8 form and that form. -/
def textBytes (s : String) : Bytes := littleEndian 4 (Bytes.utf8 s).length ++ Bytes.utf8 s

lemma reads_text {s : String} (h : (Bytes.utf8 s).length < UInt32.size) :
    Reads Reading.text (textBytes s) s := by
  refine reads_bind (reads_u32 h) (reads_offset_bind fun start => ?_)
  refine reads_bind_last (reads_slice_of_length (UInt32.toNat_ofNat_of_lt' h).symm) ?_
  rw [Bytes.text?_utf8]
  exact reads_pure s

lemma reads_blob {b : Bytes} (h : b.length < UInt64.size) :
    Reads Reading.blob (Field.blob b) b :=
  reads_bind (reads_u64 h) (reads_slice_of_length (UInt64.toNat_ofNat_of_lt' h).symm)

lemma size32_eq (what : String) {n : Nat} (h : n < UInt32.size) :
    Field.size32 what n = .ok (littleEndian 4 n) := by
  rw [Field.size32, if_pos h]

lemma text_eq {s : String} (h : (Bytes.utf8 s).length < UInt32.size) :
    Field.text s = .ok (textBytes s) := by
  simp only [Field.text, size32_eq "string" h]
  rfl

lemma mapM_eq_ok {ε α β : Type} {f : α → Except ε β} {g : α → β} {l : List α}
    (h : ∀ a ∈ l, f a = .ok (g a)) : l.mapM f = .ok (l.map g) := by
  induction l with
  | nil => rfl
  | cons a l ih =>
    rw [List.mapM_cons, h a List.mem_cons_self, ih fun b hb => h b (List.mem_cons_of_mem _ hb)]
    rfl

/-- What a field holds. -/
inductive FieldValue where
  | u32 (n : UInt32)
  | u64 (n : UInt64)
  | text (s : String)
  | blob (b : Bytes)
  deriving DecidableEq, Repr

inductive FieldKind where
  | u32
  | u64
  | text
  | blob
  deriving DecidableEq, Repr

namespace FieldValue

def kind : FieldValue → FieldKind
  | u32 _ => .u32
  | u64 _ => .u64
  | text _ => .text
  | blob _ => .blob

def write : FieldValue → Except EncodeError Bytes
  | u32 n => .ok (Field.u32 n)
  | u64 n => .ok (Field.u64 n)
  | text s => Field.text s
  | blob b => .ok (Field.blob b)

/-- The length in front of the field, if there is one, can be written. -/
def Fits : FieldValue → Prop
  | u32 _ | u64 _ => True
  | text s => (Bytes.utf8 s).length < UInt32.size
  | blob b => b.length < UInt64.size

instance : DecidablePred Fits
  | u32 _ | u64 _ => inferInstanceAs (Decidable True)
  | text s => inferInstanceAs (Decidable ((Bytes.utf8 s).length < UInt32.size))
  | blob b => inferInstanceAs (Decidable (b.length < UInt64.size))

/-- The bytes of a field that fits. -/
def bytes : FieldValue → Bytes
  | u32 n => Field.u32 n
  | u64 n => Field.u64 n
  | text s => textBytes s
  | blob b => Field.blob b

end FieldValue

def FieldKind.read : FieldKind → Reading FieldValue
  | u32 => do return .u32 (← Reading.u32)
  | u64 => do return .u64 (← Reading.u64)
  | text => do return .text (← Reading.text)
  | blob => do return .blob (← Reading.blob)

/-- The fields one behind the other. -/
def writeFields (fields : List FieldValue) : Except EncodeError Bytes :=
  (fields.mapM FieldValue.write).map List.flatten

/-- Makes one read after the other, each where the one before has left the reader, even if that one
failed. -/
def readEach : List FieldKind → FieldReader → List (Except DecodeError FieldValue) × FieldReader
  | [], r => ([], r)
  | kind :: kinds, r =>
    let (answer, next) := kind.read r
    let (answers, last) := readEach kinds next
    (answer :: answers, last)

lemma write_eq {f : FieldValue} (h : f.Fits) : f.write = .ok f.bytes := by
  cases f with
  | u32 n => rfl
  | u64 n => rfl
  | text s => exact text_eq h
  | blob b => rfl

/-- A field is read back by a read of its kind. -/
theorem reads_value {f : FieldValue} (h : f.Fits) : Reads f.kind.read f.bytes f := by
  cases f with
  | u32 n =>
    have hread := reads_u32 n.toNat_lt
    rw [UInt32.ofNat_toNat] at hread
    exact reads_bind_last hread (reads_pure _)
  | u64 n =>
    have hread := reads_u64 n.toNat_lt
    rw [UInt64.ofNat_toNat] at hread
    exact reads_bind_last hread (reads_pure _)
  | text s => exact reads_bind_last (reads_text h) (reads_pure _)
  | blob b => exact reads_bind_last (reads_blob h) (reads_pure _)

lemma writeFields_eq {fields : List FieldValue} (h : ∀ f ∈ fields, f.Fits) :
    writeFields fields = .ok (fields.map FieldValue.bytes).flatten := by
  rw [writeFields, mapM_eq_ok fun f hf => write_eq (h f hf)]
  rfl

/-- Reading starts at any offset, since the later fields are read where the first one ends. -/
lemma readEach_eq {fields : List FieldValue} (h : ∀ f ∈ fields, f.Fits) (offset : Nat)
    (suffix : Bytes) :
    readEach (fields.map FieldValue.kind)
        ⟨offset, (fields.map FieldValue.bytes).flatten ++ suffix⟩ =
      (fields.map .ok, ⟨offset + (fields.map FieldValue.bytes).flatten.length, suffix⟩) := by
  induction fields generalizing offset with
  | nil => rfl
  | cons f fields ih =>
    have hfirst := reads_value (h f List.mem_cons_self) offset
      ((fields.map FieldValue.bytes).flatten ++ suffix)
    have hrest := ih (fun g hg => h g (List.mem_cons_of_mem _ hg)) (offset + f.bytes.length)
    simp only [List.map_cons, List.flatten_cons, List.append_assoc, readEach, hfirst, hrest,
      List.length_append, Nat.add_assoc]

/-- Fields that fit can be written, and whatever follows their bytes, reads of their kinds in the
same order all succeed, give the fields and leave what follows. -/
theorem fields_read_back (fields : List FieldValue) (h : ∀ f ∈ fields, f.Fits) :
    ∃ data, writeFields fields = .ok data ∧
      ∀ suffix, ∃ last,
        readEach (fields.map FieldValue.kind) (.start (data ++ suffix)) = (fields.map .ok, last) ∧
          last.offset = data.length ∧ last.rest = suffix ∧ last.remaining = suffix.length := by
  refine ⟨_, writeFields_eq h, fun suffix => ⟨_, readEach_eq h 0 suffix, ?_, rfl, rfl⟩⟩
  exact Nat.zero_add _

/-- Fields of each kind, the texts and blobs among them empty and not. -/
def mixedFields : List FieldValue :=
  [.text "", .u64 0xffffffffffffffff, .blob [], .text "é", .u32 0x01020304, .blob [0xff, 0]]

/-- What follows could be read as a length. -/
theorem fields_read_back_mixed :
    (∀ f ∈ mixedFields, f.Fits) ∧ ∃ data, writeFields mixedFields = .ok data ∧
      ∃ last, readEach [.text, .u64, .blob, .text, .u32, .blob] (.start (data ++ [1, 0, 0, 0])) =
          (mixedFields.map .ok, last) ∧ last.remaining = 4 := by
  have hfits : ∀ f ∈ mixedFields, f.Fits := by decide
  obtain ⟨data, hdata, hread⟩ := fields_read_back mixedFields hfits
  obtain ⟨last, hlast, -, -, hremaining⟩ := hread [1, 0, 0, 0]
  exact ⟨hfits, data, hdata, last, hlast, hremaining⟩

end WasmBundle.Proofs
