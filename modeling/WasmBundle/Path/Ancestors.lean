import WasmBundle.Path

/-!
# The directories above a path

A path's parent is shorter, so the chain of parents ends: `ancestors` lists the path, its
parent, the parent of that, and so on up to the root or the empty path.
-/

namespace WasmBundle

variable {α : Type}

/-- The length of the parts with a separator in front of each. -/
def weight : List (List α) → Nat
  | [] => 0
  | s :: t => s.length + 1 + weight t

theorem length_joinWithSeparator (sep : α) (s : List α) (t : List (List α)) :
    (joinWithSeparator sep (s :: t)).length = s.length + weight t := by
  induction t generalizing s with
  | nil => simp [joinWithSeparator, weight]
  | cons u t ih =>
    simp only [joinWithSeparator, List.length_append, List.length_cons, ih]
    simp only [weight]
    omega

theorem splitAtSeparator_ne_nil [DecidableEq α] (sep : α) (cs : List α) :
    splitAtSeparator sep cs ≠ [] := by
  cases cs with
  | nil => simp [splitAtSeparator]
  | cons c r =>
    simp only [splitAtSeparator]
    split
    · simp
    · split <;> simp

theorem joinWithSeparator_splitAtSeparator [DecidableEq α] (sep : α) (cs : List α) :
    joinWithSeparator sep (splitAtSeparator sep cs) = cs := by
  induction cs with
  | nil => rfl
  | cons c r ih =>
    simp only [splitAtSeparator]
    split
    · rename_i h
      subst h
      cases hs : splitAtSeparator c r with
      | nil => exact absurd hs (splitAtSeparator_ne_nil c r)
      | cons s t => rw [hs] at ih; simp [joinWithSeparator, ih]
    · cases hs : splitAtSeparator sep r with
      | nil => exact absurd hs (splitAtSeparator_ne_nil sep r)
      | cons s t =>
        rw [hs] at ih
        cases t with
        | nil => simp only [joinWithSeparator] at ih ⊢; rw [ih]
        | cons u t => simp only [joinWithSeparator, List.cons_append] at ih ⊢; rw [ih]

namespace Path

theorem weight_trimmed_le (t : List Bytes) : weight (trimmed t) ≤ weight t := by
  induction t with
  | nil => exact Nat.le_refl _
  | cons s t ih =>
    simp only [trimmed]
    split
    · split <;> simp [weight]
    · rename_i front hf
      simp only [weight] at ih ⊢
      omega

theorem weight_dropLast_lt (s : Bytes) (t : List Bytes) :
    weight (s :: t).dropLast < weight (s :: t) := by
  induction t generalizing s with
  | nil => simp [weight]
  | cons u t ih =>
    have := ih u
    simp only [List.dropLast_cons_cons, weight] at this ⊢
    omega

theorem length_bytes (p : Path) : p.bytes.length = p.segments.1.length + weight p.segments.2 := by
  have h := joinWithSeparator_splitAtSeparator separator p.bytes
  simp only [segments]
  cases hs : splitAtSeparator separator p.bytes with
  | nil => rw [hs] at h; simp [← h, joinWithSeparator, weight]
  | cons s t => rw [hs] at h; rw [← h, length_joinWithSeparator]

theorem trimmed_head_length {t front : List Bytes} {s : Bytes}
    (h : trimmed t = s :: front) : 2 ≤ weight t := by
  induction t generalizing s front with
  | nil => simp [trimmed] at h
  | cons u t ih =>
    simp only [trimmed] at h
    split at h
    · split at h
      · cases h
      · rename_i hu
        have : u ≠ [] := by rintro rfl; simp [ignorable] at hu
        have := List.length_pos_iff.2 this
        simp only [weight]
        omega
    · rename_i hne
      cases ht : trimmed t with
      | nil => exact absurd ht hne
      | cons a b =>
        have := ih ht
        simp only [weight] at this ⊢
        omega

theorem length_parent {p q : Path} (h : p.parent? = some q) : q.bytes.length < p.bytes.length := by
  rw [length_bytes p]
  simp only [parent?] at h
  split at h
  · split at h
    · cases h
    · rename_i hh
      cases h
      have := List.length_pos_iff.2 hh
      simp only [List.length_nil]
      omega
  · rename_i s t ht
    have hw := weight_trimmed_le p.segments.2
    have h2 := trimmed_head_length ht
    rw [ht] at hw
    have hd := weight_dropLast_lt s t
    split at h
    · cases h
      dsimp only
      split
      · simp only [List.length_singleton]; omega
      · omega
    · cases h
      have hf := weight_trimmed_le (s :: t).dropLast
      simp only [length_joinWithSeparator]
      omega

/-- The path and all directories above it, the nearest first. -/
def ancestors (p : Path) : List Path :=
  match _h : p.parent? with
  | none => [p]
  | some q => p :: q.ancestors
termination_by p.bytes.length
decreasing_by exact length_parent _h

end Path

end WasmBundle
