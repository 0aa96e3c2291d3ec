import Mathlib.Data.List.Forall2
import Mathlib.Tactic.Lemma
import WasmBundle.Conventions
import WasmBundle.Proofs.BinaryFields
import WasmBundle.Proofs.ReadingAnywhere

/-!
# Reading a binary section by section

A module is its header, whatever the lower half of its version is, and its sections, each an id, a
size in any number of groups that it may have, and a body. `Wasm.sections` reads them one after
another: it gives nothing at the end of the bytes, and otherwise what the first section holds before
what the rest holds, or the fault its head has. `Holds` says what a section holds without regard to
where it stands.
-/

namespace WasmBundle.Proofs
open Wasm

/-- A section as it stands in a module. -/
structure RawSection where
  id : UInt8
  size : Bytes
  body : Bytes
  deriving DecidableEq, Repr

namespace RawSection

def head (s : RawSection) : Bytes := s.id :: s.size

def bytes (s : RawSection) : Bytes := s.head ++ s.body

/-- The size is that of the body, in a field for 32 bits. -/
structure Framed (s : RawSection) : Prop where
  size : NumberField s.size s.body.length
  groups : s.size.length ≤ 5
  fits : s.body.length < UInt32.size

end RawSection

/-- The magic bytes and the version of a module, of which the lower half is not looked at. -/
def rawHeader (version : UInt8 × UInt8) : Bytes := Wasm.magic ++ [version.1, version.2, 0, 0]

lemma takes_header (version : UInt8 × UInt8) : Takes Reader.header (rawHeader version) .module := by
  intro start rest
  have hhas : ∀ n ≤ 8, (⟨start, rawHeader version ++ rest⟩ : Cursor).has n = true := by
    intro n hn
    rw [Cursor.has_iff, List.length_append]
    exact Nat.le_trans hn (Nat.le_add_right 8 _)
  have hmagic : ¬(rawHeader version ++ rest).take 4 ≠ Wasm.magic := fun h => h rfl
  have hversion : ((rawHeader version ++ rest).drop 4).take 4 =
      [version.1, version.2, 0, 0] := rfl
  have hword :
      [version.1, version.2, 0, 0].foldr (fun b n => b.toNat + 256 * n) 0 / 0x10000 = 0 := by
    have hlow := version.1.toNat_lt
    have hhigh := version.2.toNat_lt
    simp only [List.foldr_cons, List.foldr_nil, UInt8.toNat_zero]
    omega
  simp only [Reader.header, hhas 4 (by decide), hhas 8 (by decide), Bool.not_true,
    Bool.false_eq_true, if_neg hmagic, hversion, ite_false, hword, ite_true]
  rfl

lemma takes_sectionHead {s : RawSection} (hs : s.Framed) (hid : ¬0x80 ≤ s.id) :
    Takes (Reader.sectionHead none) s.head (s.id, s.body.length) := by
  have hgroups := hs.groups
  have hsize : Takes Reader.u32 s.size s.body.length :=
    takes_numberField .unsigned32 hs.size (by omega) hs.fits
  intro start rest
  simp only [RawSection.head, List.cons_append, Reader.sectionHead, hid, ite_false,
    hsize (start + 1) rest, List.length_cons, Nat.add_right_comm start 1]
  rfl

lemma sections_of_empty {kind : Kind} {missing : Option Nat} {c : Cursor} (h : c.rest = []) :
    sections kind missing c = .ok [] := by
  rw [sections, if_pos (by simp [h])]

lemma sections_of_plain {kind : Kind} {missing : Option Nat} {c d : Cursor} {id : UInt8}
    {len : Nat} (hc : c.rest ≠ []) (h : Reader.sectionHead missing c = .ok ((id, len), d))
    (hk : nestedKind? kind id = none) :
    sections kind missing c = (do
      let here ← (content kind id).namespaces len d
      let later ← sections kind missing (d.skip len)
      return here ++ later) := by
  rw [sections, if_neg (by simpa using hc)]
  split
  · rename_i e h'
    cases h.symm.trans h'
  · rename_i id' len' d' h'
    cases h.symm.trans h'
    simp only [hk]

lemma sections_of_fault {kind : Kind} {missing : Option Nat} {c : Cursor} {e : Malformed}
    (hc : c.rest ≠ []) (h : Reader.sectionHead missing c = .error e) :
    sections kind missing c = .error e := by
  rw [sections, if_neg (by simpa using hc)]
  split
  · rename_i e' h'
    cases h.symm.trans h'
    rfl
  · rename_i id len d h'
    cases h.symm.trans h'

lemma namespaces_of_header {b : Bytes} {kind : Kind} {c : Cursor}
    (h : Reader.header (.start b) = .ok (kind, c)) : namespaces b = sections kind none c := by
  simp only [namespaces, h]

/-- The section is well formed and holds the namespaces, wherever it stands and whatever follows. -/
structure Holds (s : RawSection) (here : List String) : Prop where
  framed : s.Framed
  id : ¬0x80 ≤ s.id
  standalone : Standalone (content .module s.id)
  namespaces : ∀ start rest,
    (content .module s.id).namespaces s.body.length ⟨start, s.body ++ rest⟩ = .ok here

variable {s : RawSection} {here : List String}

lemma sections_head (hs : s.Framed) (hid : ¬0x80 ≤ s.id) (start : Nat) (rest : Bytes) :
    sections .module none ⟨start, s.head ++ rest⟩ = (do
      let here ← (content .module s.id).namespaces s.body.length ⟨start + s.head.length, rest⟩
      let later ← sections .module none
        ⟨start + s.head.length + s.body.length, rest.drop s.body.length⟩
      return here ++ later) :=
  sections_of_plain (List.cons_ne_nil _ _) (takes_sectionHead hs hid start rest) rfl

/-- The first of the sections is read before the others. -/
lemma sections_bytes (h : Holds s here) (start : Nat) (rest : Bytes) :
    sections .module none ⟨start, s.bytes ++ rest⟩ =
      (sections .module none ⟨start + s.bytes.length, rest⟩).map (here ++ ·) := by
  rw [RawSection.bytes, List.append_assoc, sections_head h.framed h.id, h.namespaces,
    List.drop_left, List.length_append, Nat.add_assoc]
  cases sections .module none ⟨start + (s.head.length + s.body.length), rest⟩ <;> rfl

variable {ss : List RawSection} {spaces : List (List String)}

/-- Sections one after another hold what each of them holds. -/
theorem sections_of_holds (h : List.Forall₂ Holds ss spaces) (start : Nat) :
    sections .module none ⟨start, ss.flatMap RawSection.bytes⟩ = .ok spaces.flatten := by
  induction h generalizing start with
  | nil => exact sections_of_empty rfl
  | cons hhere _ ih =>
    rw [List.flatMap_cons, sections_bytes hhere, ih]
    rfl

end WasmBundle.Proofs
