/-!
# Lists in increasing order of keys

A finite map is kept as a list whose keys increase strictly. `insert` keeps the order and lets
`merge` say what becomes of an element that has the key already.
-/

namespace WasmBundle

variable {ε κ : Type} [LT κ] [DecidableLT κ]

/-- The keys of the list increase strictly. -/
def Increasing (key : ε → κ) (l : List ε) : Prop := l.Pairwise fun a b => key a < key b

namespace Increasing

def insert (key : ε → κ) (merge : ε → ε → ε) (x : ε) : List ε → List ε
  | [] => [x]
  | y :: r =>
    if key x < key y then x :: y :: r
    else if key y < key x then y :: insert key merge x r
    else merge y x :: r

theorem key_of_mem_insert {key : ε → κ} {merge : ε → ε → ε}
    (hm : ∀ y x, key (merge y x) = key y) {x z : ε} {l : List ε}
    (h : z ∈ insert key merge x l) : key z = key x ∨ ∃ y ∈ l, key z = key y := by
  induction l with
  | nil => exact .inl (by simp_all [insert])
  | cons y r ih =>
    simp only [insert] at h
    split at h
    · rcases List.mem_cons.1 h with rfl | h
      · exact .inl rfl
      · exact .inr ⟨z, h, rfl⟩
    · split at h
      · rcases List.mem_cons.1 h with rfl | h
        · exact .inr ⟨z, List.mem_cons_self, rfl⟩
        · rcases ih h with h | ⟨w, hw, h⟩
          · exact .inl h
          · exact .inr ⟨w, List.mem_cons_of_mem _ hw, h⟩
      · rcases List.mem_cons.1 h with rfl | h
        · exact .inr ⟨y, List.mem_cons_self, hm y x⟩
        · exact .inr ⟨z, List.mem_cons_of_mem _ h, rfl⟩

theorem insert_increasing [Trans (α := κ) (· < ·) (· < ·) (· < ·)]
    {key : ε → κ} {merge : ε → ε → ε} (hm : ∀ y x, key (merge y x) = key y) (x : ε) {l : List ε}
    (h : Increasing key l) : Increasing key (insert key merge x l) := by
  induction l with
  | nil => exact List.pairwise_singleton _ _
  | cons y r ih =>
    obtain ⟨hy, hr⟩ := List.pairwise_cons.1 h
    simp only [insert]
    split
    · rename_i hxy
      refine List.Pairwise.cons (fun z hz => ?_) h
      rcases List.mem_cons.1 hz with rfl | hz
      · exact hxy
      · exact Trans.trans hxy (hy z hz)
    · split
      · rename_i hyx
        refine List.Pairwise.cons (fun z hz => ?_) (ih hr)
        rcases key_of_mem_insert hm hz with h | ⟨w, hw, h⟩
        · exact h ▸ hyx
        · exact h ▸ hy w hw
      · exact List.Pairwise.cons (fun z hz => (hm y x).symm ▸ hy z hz) hr

end Increasing

end WasmBundle
