import WasmBundle.Walk.Machine

/-!
# Why a walk ends

The files of a source import finitely many names. Every step of a walk either loads a name that was
not loaded before, or leaves fewer imports to handle, so the number of names not loaded decreases,
or else it stays and the stack gets smaller.
-/

namespace WasmBundle

namespace Walk

/-- The import names of a binary, none if it is malformed. -/
def scanned (v : Conventions) (b : Bytes) : List String :=
  match v.imports b with
  | .ok names => names
  | .error _ => []

/-- Every import name a walk from the root can meet. -/
def nameSupply (src : FileSource) (v : Conventions) (root : Bytes) : List String :=
  scanned v root ++ src.contents.flatMap (scanned v)

/-- All names still to be handled are among those given. -/
def State.Within (names : List String) (s : State) : Prop :=
  ∀ frame ∈ s.pending, ∀ name ∈ frame, name ∈ names

/-- How many of the names are not loaded yet. -/
def State.unloaded (v : Conventions) (names : List String) (s : State) : Nat :=
  names.countP fun name => !s.has (v.qualifiedName name)

/-- How much is left in lists of imports, an emptied list included. -/
def left : List (List String) → Nat
  | [] => 0
  | frame :: rest => frame.length + 1 + left rest

/-- How much is left on the stack. -/
def State.size (s : State) : Nat := left s.pending

theorem countP_lt_countP {α : Type} {p q : α → Bool} {l : List α} {a : α} (ha : a ∈ l)
    (hp : p a = false) (hq : q a = true) (h : ∀ x, p x = true → q x = true) :
    l.countP p < l.countP q := by
  induction l with
  | nil => cases ha
  | cons b r ih =>
    have hle : r.countP p ≤ r.countP q := List.countP_mono_left fun x _ => h x
    rcases List.mem_cons.1 ha with rfl | ha
    · simp only [List.countP_cons, hp, hq]
      simp
      omega
    · have := ih ha
      simp only [List.countP_cons]
      by_cases hb : p b = true
      · simp only [hb, h b hb]
        omega
      · simp only [hb]
        simp
        omega

theorem qualified_of_classify {v : Conventions} {name qualified : String}
    (h : v.classify name = .external qualified) : qualified = v.qualifiedName name := by
  unfold Conventions.classify at h
  split at h <;> cases h
  rfl

theorem scanned_of_fetch {src : FileSource} {v : Conventions} {r r' : Resolver}
    {name qualified : String} {m : Fetched} {t : List Consultation}
    (h : fetch src v r name qualified = (.ok m, r', t)) :
    m.bytes ∈ src.contents ∧ m.imports = scanned v m.bytes := by
  simp only [fetch] at h
  split at h
  · cases h
  · cases h
  · rename_i path _
    simp only [Prod.mk.injEq] at h
    obtain ⟨h, -, -⟩ := h
    split at h
    · cases h
    · rename_i bytes hb
      split at h
      · cases h
      · rename_i names hn
        cases h
        exact ⟨src.mem_contents _ _ hb, by simp [scanned, hn]⟩

theorem within_of_step {src : FileSource} {v : Conventions} {root : Bytes} {s t : State}
    (hs : s.Within (nameSupply src v root)) (h : step src v s = .inl t) :
    t.Within (nameSupply src v root) := by
  unfold step at h
  split at h
  · cases h
  · rename_i rest hp
    cases h
    exact fun f hf => hs f (hp ▸ List.mem_cons_of_mem _ hf)
  · rename_i name names rest hp
    have hrest : ∀ f ∈ names :: rest, ∀ n ∈ f, n ∈ nameSupply src v root := by
      intro f hf n hn
      rcases List.mem_cons.1 hf with rfl | hf
      · exact hs (name :: f) (hp ▸ List.mem_cons_self) n (List.mem_cons_of_mem _ hn)
      · exact hs f (hp ▸ List.mem_cons_of_mem _ hf) n hn
    split at h
    · cases h; exact hrest
    · split at h
      · cases h; exact hrest
      · split at h
        · cases h
        · rename_i m _ _ hf
          cases h
          obtain ⟨hb, hm⟩ := scanned_of_fetch hf
          intro f hf n hn
          rcases List.mem_cons.1 hf with rfl | hf
          · refine List.mem_append_right _ (List.mem_flatMap.2 ⟨m.bytes, hb, ?_⟩)
            exact hm ▸ hn
          · exact hrest f hf n hn

theorem step_decreases {src : FileSource} {v : Conventions} {root : Bytes} {s t : State}
    (hs : s.Within (nameSupply src v root)) (h : step src v s = .inl t) :
    Prod.Lex (· < ·) (· < ·) (t.unloaded v (nameSupply src v root), t.size)
      (s.unloaded v (nameSupply src v root), s.size) := by
  unfold step at h
  split at h
  · cases h
  · rename_i rest hp
    cases h
    refine Prod.Lex.right _ ?_
    simp [State.size, left, hp]
  · rename_i name names rest hp
    have hsize : ({ s with pending := names :: rest } : State).size < s.size := by
      simp [State.size, left, hp]
    split at h
    · cases h; exact Prod.Lex.right _ hsize
    · rename_i qualified hq
      split at h
      · cases h; exact Prod.Lex.right _ hsize
      · rename_i hnew
        split at h
        · cases h
        · rename_i m _ _ hf
          cases h
          refine Prod.Lex.left _ _ (countP_lt_countP
            (hs (name :: names) (hp ▸ List.mem_cons_self) name List.mem_cons_self) ?_ ?_ ?_)
          · simp [State.has, State.enter, qualified_of_classify hq]
          · rw [← qualified_of_classify hq]; simpa using hnew
          · intro x hx
            simp only [State.has, State.enter, List.any_append, Bool.not_or,
              Bool.and_eq_true] at hx
            exact hx.1

end Walk

end WasmBundle
