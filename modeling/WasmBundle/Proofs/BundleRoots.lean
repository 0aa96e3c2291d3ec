import Mathlib.Data.List.Nodup
import WasmBundle.Proofs.ContainerRoundTrip
import WasmBundle.Proofs.ScriptLayout

/-!
# Bundles that differ in their roots

A table has its modules in the order of their names, whatever the order in which they are given. So
bundles of the same modules with the same shim are written alike: their containers have the same
bytes up to the root module, and their scripts the same registrations. Whether a container can be
written does not depend on the root either.
-/

namespace WasmBundle.Proofs
open Container Script

lemma contains_eq_false_iff {t : ModuleTable} {name : String} :
    t.contains name = false ↔ name ∉ t.entries.map Prod.fst := by
  simp only [ModuleTable.contains, List.any_eq_false, beq_iff_eq, List.mem_map, not_exists, not_and]

lemma perm_entries_foldl {modules : List (String × Bytes)} {t : ModuleTable}
    (h : ((t.entries ++ modules).map Prod.fst).Nodup) :
    (modules.foldl (fun t m => t.insert m.1 m.2) t).entries.Perm (t.entries ++ modules) := by
  induction modules generalizing t with
  | nil =>
    rw [List.append_nil]
    exact List.Perm.refl _
  | cons m modules ih =>
    have hnew : t.contains m.1 = false := by
      rw [List.map_append, List.map_cons, List.nodup_middle] at h
      have hnot := (List.nodup_cons.1 h).1
      exact contains_eq_false_iff.2 fun hm => hnot (List.mem_append_left _ hm)
    have hinsert := (perm_entries_insert m.2 hnew).append_right modules
    rw [List.append_assoc, List.singleton_append] at hinsert
    exact (ih ((hinsert.map Prod.fst).nodup_iff.2 h)).trans hinsert

/-- A table has the modules it is made of. -/
lemma perm_entries_ofList {modules : List (String × Bytes)} (h : (modules.map Prod.fst).Nodup) :
    (ModuleTable.ofList modules).entries.Perm modules :=
  perm_entries_foldl (t := .empty) h

/-- Modules under different names make the same table in any order. -/
theorem ofList_eq_of_perm {modules modules' : List (String × Bytes)}
    (h : (modules.map Prod.fst).Nodup) (hp : modules'.Perm modules) :
    ModuleTable.ofList modules' = ModuleTable.ofList modules := by
  have h' : (modules'.map Prod.fst).Nodup := (hp.map Prod.fst).nodup_iff.2 h
  exact table_eq_of_perm
    ((perm_entries_ofList h').trans (hp.trans (perm_entries_ofList h).symm))

/-- The number of the modules and the modules, as they stand in a container. -/
def tableBytes (t : ModuleTable) : Bytes :=
  littleEndian 4 t.size ++ (t.entries.map entryBytes).flatten

/-- What is in front of the root module, if all of it can be written. -/
def payloadFront (shim : String) (t : ModuleTable) : Except EncodeError Bytes := do
  let shim ← Field.text shim
  let count ← Field.size32 "module count" t.size
  let entries ← t.entries.mapM entryFields
  return shim ++ (count ++ entries.flatten)

/-- The computation fails or gives the value. -/
def FailsOr {ε α : Type} (m : Except ε α) (x : α) : Prop := (∃ e, m = .error e) ∨ m = .ok x

section FailsOr

variable {ε α β : Type}

lemma failsOr_bind {m : Except ε α} {f : α → Except ε β} {x : α} {y : β} (hm : FailsOr m x)
    (hf : FailsOr (f x) y) : FailsOr (m >>= f) y := by
  rcases hm with ⟨e, rfl⟩ | rfl
  · exact .inl ⟨e, rfl⟩
  · exact hf

lemma failsOr_pure (x : α) : FailsOr (pure x : Except ε α) x :=
  .inr rfl

lemma failsOr_mapM {f : α → Except ε β} {g : α → β} (h : ∀ a, FailsOr (f a) (g a)) (l : List α) :
    FailsOr (l.mapM f) (l.map g) := by
  induction l with
  | nil => exact failsOr_pure []
  | cons a l ih =>
    rw [List.mapM_cons]
    exact failsOr_bind (h a) (failsOr_bind ih (failsOr_pure _))

end FailsOr

lemma failsOr_size32 (what : String) (n : Nat) :
    FailsOr (Field.size32 what n) (littleEndian 4 n) := by
  by_cases h : n < UInt32.size
  · exact .inr (size32_eq what h)
  · exact .inl ⟨.tooLarge what n, by rw [Field.size32, if_neg h]⟩

lemma failsOr_text (s : String) : FailsOr (Field.text s) (textBytes s) :=
  failsOr_bind (failsOr_size32 "string" _) (failsOr_pure _)

lemma failsOr_entryFields (entry : String × Bytes) :
    FailsOr (entryFields entry) (entryBytes entry) :=
  failsOr_bind (failsOr_text entry.1) (failsOr_pure _)

lemma failsOr_payloadFront (shim : String) (t : ModuleTable) :
    FailsOr (payloadFront shim t) (textBytes shim ++ tableBytes t) :=
  failsOr_bind (failsOr_text shim) (failsOr_bind (failsOr_size32 "module count" t.size)
    (failsOr_bind (failsOr_mapM failsOr_entryFields t.entries) (failsOr_pure _)))

/-- The root module is written last and always can be. -/
lemma payload_eq_front (shim : String) (t : ModuleTable) (root : Bytes) :
    payload ⟨shim, t, root⟩ = (payloadFront shim t).map (· ++ Field.blob root) := by
  simp only [payload, payloadFront]
  cases Field.text shim with
  | error e => rfl
  | ok shim =>
    cases Field.size32 "module count" t.size with
    | error e => rfl
    | ok count =>
      cases t.entries.mapM entryFields with
      | error e => rfl
      | ok entries => exact congrArg (Except.ok <| · ++ Field.blob root) (List.append_assoc ..)

/-- The bundles have the same modules. None of them can be written, or their containers have the
same table behind the shim and in front of the root; their scripts have the same registrations. -/
structure SameTable (b b' : Bundle) : Prop where
  modules : b'.modules = b.modules
  container : (∃ e, encode b = .error e ∧ encode b' = .error e) ∨
    encode b = .ok (withHeader checksum
      (textBytes b.shim ++ tableBytes b.modules ++ Field.blob b.root)) ∧
    encode b' = .ok (withHeader checksum
      (textBytes b'.shim ++ tableBytes b.modules ++ Field.blob b'.root))
  script : ∃ registrations, Laid b registrations (arrayBuffer b.root) (render b) ∧
    Laid b' registrations (arrayBuffer b'.root) (render b')

/-- Bundles that differ in their roots are written with the same table. -/
theorem sameTable_of_roots (shim : String) (t : ModuleTable) (root root' : Bytes) :
    SameTable ⟨shim, t, root⟩ ⟨shim, t, root'⟩ where
  modules := rfl
  container := by
    rw [encode, encode, encodeWith, encodeWith, payload_eq_front, payload_eq_front]
    rcases failsOr_payloadFront shim t with ⟨e, hfront⟩ | hfront
    · refine .inl ⟨e, ?_, ?_⟩
      · rw [hfront]
        rfl
      · rw [hfront]
        rfl
    · refine .inr ⟨?_, ?_⟩
      · rw [hfront]
        rfl
      · rw [hfront]
        rfl
  script := ⟨_, laid_render ⟨shim, t, root⟩, laid_render ⟨shim, t, root'⟩⟩

end WasmBundle.Proofs
