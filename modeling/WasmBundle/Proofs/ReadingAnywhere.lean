import Mathlib.Tactic.Lemma
import WasmBundle.Wasm.Binary

/-!
# Reading the same bytes elsewhere

Offsets tell where a fault was met. They have no part in what a reader gives: on the same bytes it
gives the same value and leaves the same bytes unread, wherever these stand. Readers that ask for
their offset keep it for a fault, so that `Agrees` compares two readers, which may differ in it.
-/

namespace WasmBundle.Proofs
open Wasm Wasm.Reader

section Agreement

variable {α β : Type}

/-- What the first reader gives on some bytes, the second one gives on the same bytes anywhere, and
it leaves the same ones unread. -/
def Agrees (m m' : Reader α) : Prop :=
  ∀ start start' b x d, m ⟨start, b⟩ = .ok (x, d) →
    ∃ offset, m' ⟨start', b⟩ = .ok (x, ⟨offset, d.rest⟩)

/-- It makes no difference to the reader where its bytes stand. -/
def Anywhere (m : Reader α) : Prop := Agrees m m

lemma agrees_pure (x : α) : Agrees (pure x) (pure x) := by
  intro start start' b y d h
  cases h
  exact ⟨start', rfl⟩

/-- A fault may be met at any offset. -/
lemma agrees_fail (cause : Cause) (offset : Nat) (m : Reader α) : Agrees (fail cause offset) m := by
  intro start start' b x d h
  cases h

lemma agrees_bind {m m' : Reader α} {f f' : α → Reader β} (hm : Agrees m m')
    (hf : ∀ x, Agrees (f x) (f' x)) : Agrees (m >>= f) (m' >>= f') := by
  intro start start' b y e h
  simp only [bind] at h ⊢
  cases hx : m ⟨start, b⟩ with
  | error e =>
    rw [hx] at h
    cases h
  | ok p =>
    obtain ⟨x, d⟩ := p
    obtain ⟨offset, hx'⟩ := hm start start' b x d hx
    rw [hx] at h
    rw [hx']
    exact hf x d.offset offset d.rest y e h

/-- Readers that ask for the offset agree if what they do after that agrees. -/
lemma agrees_offset_bind {f f' : Nat → Reader α} (h : ∀ s s', Agrees (f s) (f' s')) :
    Agrees (offset >>= f) (offset >>= f') :=
  fun start start' b x d hx => h start start' start start' b x d hx

lemma agrees_ite {p : Prop} [Decidable p] {m m' n n' : Reader α} (hm : Agrees m m')
    (hn : Agrees n n') : Agrees (if p then m else n) (if p then m' else n') := by
  by_cases h : p
  · rwa [if_pos h, if_pos h]
  · rwa [if_neg h, if_neg h]

end Agreement

lemma anywhere_atEnd : Anywhere atEnd := by
  intro start start' b x d h
  cases h
  exact ⟨start', rfl⟩

lemma anywhere_byte : Anywhere byte := by
  intro start start' b x d h
  cases b with
  | nil => cases h
  | cons b r =>
    cases h
    exact ⟨start' + 1, rfl⟩

lemma anywhere_peek : Anywhere peek := by
  intro start start' b x d h
  cases b with
  | nil => cases h
  | cons b r =>
    cases h
    exact ⟨start', rfl⟩

lemma anywhere_block (n : Nat) : Anywhere (block n) := by
  intro start start' b x d h
  simp only [block] at h ⊢
  split at h
  · rename_i hhas
    cases h
    exact ⟨start' + n, if_pos hhas⟩
  · cases h

lemma anywhere_unsigned (format : IntegerFormat) (width : Nat) :
    Anywhere (unsigned format width) := by
  induction width using Nat.strongRecOn with
  | ind width ih =>
    intro start start' b x d h
    rw [unsigned] at h ⊢
    cases b with
    | nil => cases h
    | cons b r =>
      by_cases hw : width ≤ 7
      · simp only [hw, dite_true] at h ⊢
        by_cases hb : b.toNat < Nat.pow 2 width
        · simp only [hb, ite_true] at h ⊢
          cases h
          exact ⟨start' + 1, rfl⟩
        · simp only [hb, ite_false] at h
          split at h <;> cases h
      · simp only [hw, dite_false] at h ⊢
        by_cases hb : b.toNat < 128
        · simp only [hb, ite_true] at h ⊢
          cases h
          exact ⟨start' + 1, rfl⟩
        · simp only [hb, ite_false] at h ⊢
          split at h
          · cases h
          · rename_i n e he
            cases h
            obtain ⟨offset, he'⟩ := ih (width - 7) (by omega) (start + 1) (start' + 1) r n d he
            exact ⟨offset, by rw [he']⟩

lemma anywhere_signed (format : IntegerFormat) (width : Nat) :
    Anywhere (signed format width) := by
  induction width using Nat.strongRecOn with
  | ind width ih =>
    intro start start' b x d h
    rw [signed] at h ⊢
    cases b with
    | nil => cases h
    | cons b r =>
      by_cases hw : width ≤ 7
      · simp only [hw, dite_true] at h ⊢
        split at h
        · rename_i hb
          cases h
          exact ⟨start' + 1, if_pos hb⟩
        · rename_i hb
          split at h
          · rename_i hsign
            cases h
            exact ⟨start' + 1, by rw [if_neg hb, if_pos hsign]⟩
          · cases h
      · simp only [hw, dite_false] at h ⊢
        split at h
        · rename_i hb
          cases h
          exact ⟨start' + 1, if_pos hb⟩
        · rename_i hb
          rw [if_neg hb]
          split at h
          · rename_i hsign
            cases h
            exact ⟨start' + 1, if_pos hsign⟩
          · rename_i hsign
            rw [if_neg hsign]
            split at h
            · cases h
            · rename_i n e he
              cases h
              obtain ⟨offset, he'⟩ := ih (width - 7) (by omega) (start + 1) (start' + 1) r n d he
              exact ⟨offset, by rw [he']⟩

lemma anywhere_string : Anywhere string := by
  refine agrees_bind (anywhere_unsigned .unsigned32 32) fun n => agrees_offset_bind fun s s' => ?_
  by_cases hn : stringLimit < n
  · rw [if_pos hn]
    exact agrees_fail _ _ _
  · rw [if_neg hn, if_neg hn]
    refine agrees_bind (anywhere_block n) fun b => ?_
    cases Bytes.text? b with
    | none => exact agrees_fail _ _ _
    | some text => exact agrees_pure text

lemma anywhere_abstractType (bad : Cause) : Anywhere (abstractType bad) :=
  agrees_offset_bind fun _ _ => agrees_bind anywhere_byte fun _ =>
    agrees_ite (agrees_pure ()) (agrees_fail _ _ _)

lemma anywhere_heapType (bad badShared : Cause) : Anywhere (heapType bad badShared) := by
  -- An abstract type is read again from the first byte, so this is no bind of readers.
  intro start start' b x d h
  simp only [heapType] at h ⊢
  cases hindex : s33 ⟨start, b⟩ with
  | error e =>
    rw [hindex] at h
    cases h
  | ok p =>
    obtain ⟨index, e⟩ := p
    obtain ⟨offset, hindex'⟩ := anywhere_signed .signed33 33 start start' b index e hindex
    rw [hindex] at h
    rw [s33, hindex']
    dsimp only at h ⊢
    by_cases hpos : 0 ≤ index
    · rw [if_pos hpos] at h ⊢
      by_cases hlimit : index < typeLimit
      · rw [if_pos hlimit] at h ⊢
        cases h
        exact ⟨offset, rfl⟩
      · rw [if_neg hlimit] at h
        cases h
    · rw [if_neg hpos] at h ⊢
      split at h
      · exact anywhere_abstractType badShared _ _ _ _ _ h
      · exact anywhere_abstractType bad _ _ _ _ _ h

lemma anywhere_referenceType (outer : Option Cause) : Anywhere (referenceType outer) :=
  agrees_bind anywhere_peek fun _ =>
    agrees_ite (agrees_bind anywhere_byte fun _ => anywhere_heapType _ _) (anywhere_heapType _ _)

lemma anywhere_valueType : Anywhere valueType :=
  agrees_bind anywhere_peek fun _ =>
    agrees_ite (agrees_bind anywhere_byte fun _ => agrees_pure ()) (anywhere_referenceType _)

lemma anywhere_flags (bits : Nat) (bad : Cause) : Anywhere (flags bits bad) :=
  agrees_offset_bind fun _ _ => agrees_bind anywhere_byte fun _ =>
    agrees_ite (agrees_pure _) (agrees_fail _ _ _)

lemma anywhere_limits (flags : Nat) : Anywhere (limits flags) := by
  have hbound : Anywhere (if flags.testBit 2 then u64 else u32) :=
    agrees_ite (anywhere_unsigned .unsigned64 64) (anywhere_unsigned .unsigned32 32)
  exact agrees_bind hbound fun _ =>
    agrees_ite (agrees_bind hbound fun _ => agrees_pure ()) (agrees_pure ())

lemma anywhere_tableType : Anywhere tableType :=
  agrees_bind (anywhere_referenceType none) fun _ =>
    agrees_bind (anywhere_flags 3 .tableFlags) fun f => anywhere_limits f

lemma anywhere_memoryType : Anywhere memoryType :=
  agrees_bind (anywhere_flags 4 .memoryFlags) fun f => agrees_bind (anywhere_limits f) fun _ =>
    agrees_ite (agrees_bind (anywhere_unsigned .unsigned32 32) fun _ => agrees_pure ())
      (agrees_pure ())

lemma anywhere_globalType : Anywhere globalType :=
  agrees_bind anywhere_valueType fun _ =>
    agrees_bind (anywhere_flags 2 .globalFlags) fun _ => agrees_pure ()

lemma anywhere_tagType : Anywhere tagType :=
  agrees_bind (anywhere_flags 0 .tagAttributes) fun _ =>
    agrees_bind (anywhere_unsigned .unsigned32 32) fun _ => agrees_pure ()

lemma anywhere_externalType : Anywhere externalType := by
  refine agrees_offset_bind fun s s' => agrees_bind anywhere_byte fun kind => ?_
  split
  · exact agrees_bind (anywhere_unsigned .unsigned32 32) fun _ => agrees_pure ()
  · exact anywhere_tableType
  · exact anywhere_memoryType
  · exact anywhere_globalType
  · exact anywhere_tagType
  · exact agrees_fail _ _ _

lemma anywhere_importEntry : Anywhere importEntry :=
  agrees_bind anywhere_string fun _ => agrees_bind anywhere_string fun _ =>
    agrees_bind anywhere_externalType fun _ => agrees_pure _

lemma anywhere_importEntries (n : Nat) : Anywhere (importEntries n) := by
  induction n with
  | zero => exact agrees_pure []
  | succ n ih =>
    exact agrees_bind anywhere_importEntry fun _ => agrees_bind ih fun _ => agrees_pure _

lemma anywhere_importSection : Anywhere importSection :=
  agrees_bind (anywhere_unsigned .unsigned32 32) fun n =>
    agrees_bind (anywhere_importEntries n) fun _ => agrees_bind anywhere_atEnd fun _ =>
      agrees_ite (agrees_pure _) (agrees_offset_bind fun _ _ => agrees_fail _ _ _)

lemma anywhere_skipU32 : Anywhere skipU32 :=
  agrees_bind (anywhere_unsigned .unsigned32 32) fun _ => agrees_pure ()

lemma anywhere_singleItem (item : SingleItem) {read : Reader Unit} (h : Anywhere read) :
    Anywhere (singleItem item read) :=
  agrees_bind h fun _ => agrees_bind anywhere_atEnd fun _ =>
    agrees_ite (agrees_pure ()) (agrees_offset_bind fun _ _ => agrees_fail _ _ _)

/-- The content is read from the bytes of its section alone, wherever these stand. -/
def Standalone : Content → Prop
  | .code => False
  | .single _ read => Anywhere read
  | _ => True

/-- Of the sections of a module only function bodies are read from the whole input. -/
lemma standalone_content {id : UInt8} (h : id ≠ 10) : Standalone (content .module id) := by
  have hsingle : ∀ item, Standalone (.single item skipU32) := fun _ => anywhere_skipU32
  unfold content
  split
  · trivial
  · trivial
  · exact hsingle _
  · exact hsingle _
  · exact absurd rfl h
  · split <;> trivial
  · rename_i hkind
    cases hkind
  · rename_i hkind _ _
    cases hkind

lemma namespaces_of_short {x : Content} (hx : Standalone x) {len : Nat} {c : Cursor}
    (h : c.has len = false) : x.namespaces len c = .error ⟨.unexpectedEnd, c.offset⟩ := by
  cases x with
  | code => exact hx.elim
  | _ => simp only [Content.namespaces, h, Bool.not_false, ite_true]

/-- What stands behind a section does not matter to it. -/
lemma namespaces_append {x : Content} (hx : Standalone x) (start : Nat) (body rest : Bytes) :
    x.namespaces body.length ⟨start, body ++ rest⟩ = x.namespaces body.length ⟨start, body⟩ := by
  have hlong : (⟨start, body ++ rest⟩ : Cursor).has body.length = true := by
    rw [Cursor.has_iff, List.length_append]
    exact Nat.le_add_right _ _
  have hself : (⟨start, body⟩ : Cursor).has body.length = true := Cursor.has_iff.2 (Nat.le_refl _)
  have hwindow : (⟨start, body ++ rest⟩ : Cursor).window body.length =
      (⟨start, body⟩ : Cursor).window body.length := by
    rw [Cursor.window, Cursor.window, List.take_left, List.take_length]
  cases x with
  | code => exact hx.elim
  | _ => simp only [Content.namespaces, hlong, hself, hwindow]

/-- What a reader gives, without what it leaves, is the same wherever its bytes stand. -/
lemma map_fst_of_anywhere {α β : Type} {m : Reader α} (hm : Anywhere m) (f : α → β) {start : Nat}
    (start' : Nat) {b : Bytes} {y : β} (h : (m ⟨start, b⟩).map (fun p => f p.1) = .ok y) :
    (m ⟨start', b⟩).map (fun p => f p.1) = .ok y := by
  cases hx : m ⟨start, b⟩ with
  | error e =>
    rw [hx] at h
    cases h
  | ok p =>
    obtain ⟨x, d⟩ := p
    obtain ⟨offset, hx'⟩ := hm start start' b x d hx
    rw [hx] at h
    rw [hx']
    exact h

/-- A section holds the same namespaces wherever it stands. -/
theorem namespaces_anywhere {x : Content} (hx : Standalone x) {start : Nat} (start' : Nat)
    {body : Bytes} {here : List String}
    (h : x.namespaces body.length ⟨start, body⟩ = .ok here) :
    x.namespaces body.length ⟨start', body⟩ = .ok here := by
  have hhas : ∀ s, (⟨s, body⟩ : Cursor).has body.length = true :=
    fun s => Cursor.has_iff.2 (Nat.le_refl _)
  have hwindow : ∀ s, (⟨s, body⟩ : Cursor).window body.length = ⟨s, body⟩ := fun s => by
    rw [Cursor.window, List.take_length]
  cases x <;> simp only [Content.namespaces, hhas, hwindow, Bool.not_true, Bool.false_eq_true,
    ite_false] at h ⊢
  case code => exact hx.elim
  case name => exact map_fst_of_anywhere anywhere_string (fun _ => []) start' h
  case imports => exact map_fst_of_anywhere anywhere_importSection (fun names => names) start' h
  case single item read =>
    exact map_fst_of_anywhere (anywhere_singleItem item hx) (fun _ => []) start' h
  case count => exact map_fst_of_anywhere (anywhere_unsigned _ _) (fun _ => []) start' h
  case unread => exact h

end WasmBundle.Proofs
