import Mathlib.Tactic.Lemma
import WasmBundle.Path.Ancestors

/-!
# Joining and parting paths, by components

What `join`, `parent?` and `fileName?` do to the text of a path is what list operations do to its
components: `components_join` puts one list behind the other, `parent?_cases` takes the last
component away, and the file name is the last component. Equivalent paths therefore stay equivalent
under all of them.
-/

namespace WasmBundle.Proofs
open WasmBundle.Path

section Parts

variable {α : Type} [DecidableEq α]

lemma splitAtSeparator_cons_of_ne {sep c : α} {r s : List α} {t : List (List α)} (h : c ≠ sep)
    (hs : splitAtSeparator sep r = s :: t) : splitAtSeparator sep (c :: r) = (c :: s) :: t := by
  simp only [splitAtSeparator, h, ite_false, hs]

lemma exists_splitAtSeparator_eq_cons (sep : α) (cs : List α) :
    ∃ s t, splitAtSeparator sep cs = s :: t :=
  List.exists_cons_of_ne_nil (splitAtSeparator_ne_nil sep cs)

lemma splitAtSeparator_append_sep (sep : α) (a b : List α) :
    splitAtSeparator sep (a ++ sep :: b) = splitAtSeparator sep a ++ splitAtSeparator sep b := by
  induction a with
  | nil => simp [splitAtSeparator]
  | cons c r ih =>
    by_cases hc : c = sep
    · subst hc
      simp [splitAtSeparator, ih]
    · obtain ⟨s, t, hs⟩ := exists_splitAtSeparator_eq_cons sep r
      rw [hs, List.cons_append] at ih
      rw [List.cons_append, splitAtSeparator_cons_of_ne hc ih, splitAtSeparator_cons_of_ne hc hs,
        List.cons_append]

lemma splitAtSeparator_of_not_mem {sep : α} {cs : List α} (h : sep ∉ cs) :
    splitAtSeparator sep cs = [cs] := by
  induction cs with
  | nil => rfl
  | cons c r ih =>
    rw [List.mem_cons, not_or] at h
    exact splitAtSeparator_cons_of_ne (Ne.symm h.1) (ih h.2)

/-- Text without separators goes to the last part. -/
lemma splitAtSeparator_append_of_not_mem {sep : α} (a : List α) {b : List α} (h : sep ∉ b) :
    ∃ front last, splitAtSeparator sep a = front ++ [last] ∧
      splitAtSeparator sep (a ++ b) = front ++ [last ++ b] := by
  induction a with
  | nil => exact ⟨[], [], rfl, splitAtSeparator_of_not_mem h⟩
  | cons c r ih =>
    obtain ⟨front, last, hr, hb⟩ := ih
    by_cases hc : c = sep
    · subst hc
      exact ⟨[] :: front, last, by simp [splitAtSeparator, hr], by simp [splitAtSeparator, hb]⟩
    · cases front with
      | nil =>
        exact ⟨[], c :: last, splitAtSeparator_cons_of_ne hc hr, splitAtSeparator_cons_of_ne hc hb⟩
      | cons s t =>
        exact ⟨(c :: s) :: t, last, splitAtSeparator_cons_of_ne hc hr,
          splitAtSeparator_cons_of_ne hc hb⟩

lemma not_mem_of_mem_splitAtSeparator {sep : α} {cs s : List α} (h : s ∈ splitAtSeparator sep cs) :
    sep ∉ s := by
  induction cs generalizing s with
  | nil =>
    rw [List.mem_singleton.1 h]
    exact List.not_mem_nil
  | cons c r ih =>
    by_cases hc : c = sep
    · subst hc
      simp only [splitAtSeparator, ite_true, List.mem_cons] at h
      rcases h with rfl | h
      · exact List.not_mem_nil
      · exact ih h
    · obtain ⟨u, t, hr⟩ := exists_splitAtSeparator_eq_cons sep r
      rw [splitAtSeparator_cons_of_ne hc hr] at h
      rcases List.mem_cons.1 h with rfl | h
      · rw [List.mem_cons, not_or]
        exact ⟨Ne.symm hc, ih (hr ▸ List.mem_cons_self)⟩
      · exact ih (hr ▸ List.mem_cons_of_mem _ h)

lemma splitAtSeparator_joinWithSeparator {sep : α} {s : List α} {t : List (List α)}
    (h : ∀ u ∈ s :: t, sep ∉ u) :
    splitAtSeparator sep (joinWithSeparator sep (s :: t)) = s :: t := by
  induction t generalizing s with
  | nil => exact splitAtSeparator_of_not_mem (h s List.mem_cons_self)
  | cons u t ih =>
    rw [joinWithSeparator, splitAtSeparator_append_sep,
      splitAtSeparator_of_not_mem (h s List.mem_cons_self),
      ih fun w hw => h w (List.mem_cons_of_mem _ hw)]
    · rfl
    · simp

omit [DecidableEq α] in
lemma joinWithSeparator_eq_intercalate (sep : α) (parts : List (List α)) :
    joinWithSeparator sep parts = [sep].intercalate parts := by
  induction parts with
  | nil => rfl
  | cons s t ih =>
    cases t with
    | nil => rw [List.intercalate_singleton, joinWithSeparator]
    | cons u t => simp [joinWithSeparator, ih, List.intercalate_cons_cons]

omit [DecidableEq α] in
lemma mem_joinWithSeparator {sep c : α} {parts : List (List α)}
    (h : c ∈ joinWithSeparator sep parts) :
    c = sep ∨ ∃ part ∈ parts, c ∈ part := by
  induction parts with
  | nil => cases h
  | cons s t ih =>
    cases t with
    | nil => exact .inr ⟨s, List.mem_cons_self, h⟩
    | cons u t =>
      rcases List.mem_append.1 h with h | h
      · exact .inr ⟨s, List.mem_cons_self, h⟩
      · rcases List.mem_cons.1 h with rfl | h
        · exact .inl rfl
        · rcases ih h with h | ⟨part, hpart, hc⟩
          · exact .inl h
          · exact .inr ⟨part, List.mem_cons_of_mem _ hpart, hc⟩

end Parts

/-- The components of parts that do not begin a path. -/
def laterComponents (parts : List Bytes) : List Component :=
  (parts.filter fun s => !ignorable s).map componentOf

/-- The components of the parts of a path. -/
def partComponents : List Bytes → List Component
  | [] => []
  | head :: tail =>
    (if head = [] then if tail = [] then [] else [.root] else [componentOf head]) ++
      laterComponents tail

lemma components_eq (p : Path) :
    p.components = partComponents (splitAtSeparator separator p.bytes) := by
  obtain ⟨s, t, h⟩ := exists_splitAtSeparator_eq_cons separator p.bytes
  simp only [components, segments, h, partComponents, laterComponents]

lemma components_mk (b : Bytes) :
    (Path.mk b).components = partComponents (splitAtSeparator separator b) :=
  components_eq ⟨b⟩

lemma ignorable_iff (s : Bytes) : ignorable s = true ↔ s = [] ∨ s = [dot] := by
  simp [ignorable]

lemma laterComponents_append (a b : List Bytes) :
    laterComponents (a ++ b) = laterComponents a ++ laterComponents b := by
  simp only [laterComponents, List.filter_append, List.map_append]

lemma laterComponents_of_ignorable {s : Bytes} (h : ignorable s = true) :
    laterComponents [s] = [] := by
  simp [laterComponents, h]

lemma laterComponents_of_not_ignorable {s : Bytes} (h : ignorable s = false) :
    laterComponents [s] = [componentOf s] := by
  simp [laterComponents, h]

lemma componentOf_ne_root (s : Bytes) : componentOf s ≠ .root := by
  unfold componentOf
  split
  · simp
  · split <;> simp

lemma componentOf_eq_current_iff (s : Bytes) : componentOf s = .current ↔ s = [dot] := by
  unfold componentOf
  by_cases h : s = [dot]
  · simp [h]
  · rw [if_neg h]
    split <;> simp [h]

lemma current_not_mem_laterComponents (parts : List Bytes) :
    Component.current ∉ laterComponents parts := by
  intro h
  obtain ⟨s, hs, hc⟩ := List.mem_map.1 h
  have hi := (List.mem_filter.1 hs).2
  rw [(componentOf_eq_current_iff s).1 hc] at hi
  simp [ignorable] at hi

lemma root_not_mem_laterComponents (parts : List Bytes) :
    Component.root ∉ laterComponents parts := by
  intro h
  obtain ⟨s, -, hs⟩ := List.mem_map.1 h
  exact componentOf_ne_root s hs

lemma filter_laterComponents (parts : List Bytes) :
    (laterComponents parts).filter (· ≠ .current) = laterComponents parts := by
  refine List.filter_eq_self.2 fun c hc => decide_eq_true ?_
  rintro rfl
  exact current_not_mem_laterComponents parts hc

lemma partComponents_cons {s : Bytes} (h : s ≠ []) (t : List Bytes) :
    partComponents (s :: t) = componentOf s :: laterComponents t := by
  rw [partComponents, if_neg h, List.singleton_append]

lemma partComponents_append {a b : List Bytes} (ha : a ≠ []) (hb : b ≠ []) :
    partComponents (a ++ b) = partComponents (a ++ [[]]) ++ laterComponents b := by
  obtain ⟨s, t, rfl⟩ := List.exists_cons_of_ne_nil ha
  simp [partComponents, laterComponents_append, hb, laterComponents_of_ignorable (s := [])
    (by decide)]

lemma partComponents_concat_nil {a : List Bytes} (h : a ≠ [[]]) :
    partComponents (a ++ [[]]) = partComponents a := by
  cases a with
  | nil => rfl
  | cons s t =>
    have hst : ¬(s = [] ∧ t = []) := by
      rintro ⟨rfl, rfl⟩
      exact h rfl
    by_cases hs : s = []
    · have ht : t ≠ [] := fun ht => hst ⟨hs, ht⟩
      simp [partComponents, laterComponents_append, hs, ht,
        laterComponents_of_ignorable (s := []) (by decide)]
    · simp [partComponents, laterComponents_append, hs,
        laterComponents_of_ignorable (s := []) (by decide)]

lemma laterComponents_eq_filter {parts : List Bytes}
    (h : (partComponents parts).head? ≠ some .root) :
    laterComponents parts = (partComponents parts).filter (· ≠ .current) := by
  cases parts with
  | nil => rfl
  | cons s t =>
    have hlater : laterComponents (s :: t) = laterComponents [s] ++ laterComponents t :=
      laterComponents_append [s] t
    rw [hlater]
    by_cases hs : s = []
    · by_cases ht : t = []
      · simp [hs, ht, partComponents, laterComponents, ignorable]
      · simp [hs, ht, partComponents] at h
    · rw [partComponents_cons hs]
      by_cases hd : s = [dot]
      · have hi : ignorable s = true := (ignorable_iff s).2 (.inr hd)
        have hc : componentOf s = .current := (componentOf_eq_current_iff s).2 hd
        rw [List.filter_cons_of_neg (by simp [hc]), filter_laterComponents,
          laterComponents_of_ignorable hi,
          List.nil_append]
      · have hi : ignorable s = false := by simp [ignorable, hs, hd]
        have hc : componentOf s ≠ .current := fun e => hd ((componentOf_eq_current_iff s).1 e)
        rw [List.filter_cons_of_pos (by simp [hc]), filter_laterComponents,
          laterComponents_of_not_ignorable hi,
          List.singleton_append]

/-- What `join` does to components. -/
def joined (a b : List Component) : List Component :=
  if b.head? = some .root then b else if a = [] then b else a ++ b.filter (· ≠ .current)

lemma joined_concat (a d : List Component) (name : Bytes) :
    joined a (d ++ [.normal name]) = joined a d ++ [.normal name] := by
  by_cases hd : d = []
  · by_cases ha : a = [] <;> simp [joined, hd, ha]
  · have hhead : (d ++ [Component.normal name]).head? = d.head? := by
      obtain ⟨c, d, rfl⟩ := List.exists_cons_of_ne_nil hd
      rfl
    unfold joined
    rw [hhead]
    by_cases hr : d.head? = some .root
    · rw [if_pos hr, if_pos hr]
    · rw [if_neg hr, if_neg hr]
      by_cases ha : a = []
      · rw [if_pos ha, if_pos ha]
      · rw [if_neg ha, if_neg ha, List.filter_append, ← List.append_assoc]
        rfl

lemma bytes_join (p q : Path) : (p.join q).bytes =
    if q.isAbsolute then q.bytes
    else if p.isEmpty ∨ p.bytes.getLast? = some separator then p.bytes ++ q.bytes
    else p.bytes ++ separator :: q.bytes := by
  unfold join
  split
  · rfl
  · split <;> rfl

/-- A path is empty, begins with a separator, or begins with a component that is not the root. -/
lemma components_cases (p : Path) :
    (p.bytes = [] ∧ p.components = []) ∨
    (∃ r t, p.bytes = separator :: r ∧ p.components = .root :: t) ∨
    ∃ c r d t, p.bytes = c :: r ∧ c ≠ separator ∧ p.components = d :: t ∧ d ≠ .root := by
  rw [components_eq]
  cases p.bytes with
  | nil => exact .inl ⟨rfl, rfl⟩
  | cons c r =>
    by_cases hc : c = separator
    · refine .inr (.inl ⟨r, laterComponents (splitAtSeparator separator r), by rw [hc], ?_⟩)
      simp [splitAtSeparator, partComponents, hc, splitAtSeparator_ne_nil]
    · obtain ⟨s, t, hs⟩ := exists_splitAtSeparator_eq_cons separator r
      refine .inr (.inr ⟨c, r, componentOf (c :: s), laterComponents t, rfl, hc, ?_,
        componentOf_ne_root _⟩)
      rw [splitAtSeparator_cons_of_ne hc hs, partComponents_cons (List.cons_ne_nil c s)]

lemma head?_components_eq_root_iff (p : Path) :
    p.components.head? = some .root ↔ p.isAbsolute = true := by
  rw [isAbsolute]
  rcases components_cases p with ⟨hp, h⟩ | ⟨r, t, hp, h⟩ | ⟨c, r, d, t, hp, hc, h, hd⟩
  · simp [hp, h]
  · simp [hp, h]
  · simp [hp, h, hc, hd]

lemma components_eq_nil_iff (p : Path) : p.components = [] ↔ p.isEmpty = true := by
  rw [isEmpty]
  rcases components_cases p with ⟨hp, h⟩ | ⟨r, t, hp, h⟩ | ⟨c, r, d, t, hp, -, h, -⟩ <;>
    simp [hp, h]

lemma splitAtSeparator_ne_singleton_nil {sep : UInt8} {cs : Bytes} (h : cs ≠ []) :
    splitAtSeparator sep cs ≠ [[]] := by
  intro hs
  apply h
  rw [← joinWithSeparator_splitAtSeparator sep cs, hs]
  rfl

/-- A relative path is put behind a path that is not empty, part by part. -/
lemma components_join_of_relative {p q : Path} (hp : p.isEmpty ≠ true) (hq : q.isAbsolute ≠ true) :
    (p.join q).components =
      p.components ++ laterComponents (splitAtSeparator separator q.bytes) := by
  have hne : p.bytes ≠ [] := fun h => hp (List.isEmpty_iff.2 h)
  rw [components_eq (p.join q), bytes_join, if_neg hq]
  by_cases hl : p.bytes.getLast? = some separator
  · obtain ⟨body, hb⟩ := List.getLast?_eq_some_iff.1 hl
    have hbody : p.components = partComponents (splitAtSeparator separator body ++ [[]]) := by
      rw [components_eq, hb, splitAtSeparator_append_sep]
      rfl
    rw [if_pos (.inr hl), hbody, hb, List.append_assoc, List.singleton_append,
      splitAtSeparator_append_sep, partComponents_append (splitAtSeparator_ne_nil _ _)
      (splitAtSeparator_ne_nil _ _)]
  · rw [if_neg (not_or.2 ⟨hp, hl⟩), splitAtSeparator_append_sep, components_eq p,
      partComponents_append (splitAtSeparator_ne_nil _ _) (splitAtSeparator_ne_nil _ _),
      partComponents_concat_nil (splitAtSeparator_ne_singleton_nil hne)]

theorem components_join (p q : Path) :
    (p.join q).components = joined p.components q.components := by
  unfold joined
  by_cases hq : q.isAbsolute = true
  · rw [if_pos ((head?_components_eq_root_iff q).2 hq), join, if_pos hq]
  · have hhead : q.components.head? ≠ some .root := fun h =>
      hq ((head?_components_eq_root_iff q).1 h)
    rw [if_neg hhead]
    by_cases hp : p.isEmpty = true
    · have hnil : p.bytes = [] := List.isEmpty_iff.1 hp
      rw [if_pos ((components_eq_nil_iff p).2 hp), components_eq, bytes_join, if_neg hq,
        if_pos (.inl hp), hnil, List.nil_append, components_eq]
    · rw [if_neg fun h => hp ((components_eq_nil_iff p).1 h), components_join_of_relative hp hq]
      rw [components_eq q] at hhead ⊢
      rw [laterComponents_eq_filter hhead]

/-- Joining with an empty path is left out, which changes no components. -/
lemma components_ite_isEmpty (root sub : Path) :
    (if sub.isEmpty then root else root.join sub).components =
      joined root.components sub.components := by
  by_cases hs : sub.isEmpty = true
  · rw [if_pos hs, (components_eq_nil_iff sub).2 hs, joined]
    by_cases hr : root.components = [] <;> simp [hr]
  · rw [if_neg hs, components_join]

lemma trimmed_cons (s : Bytes) (t : List Bytes) :
    trimmed (s :: t) =
      if trimmed t = [] then if ignorable s then [] else [s] else s :: trimmed t := by
  rw [trimmed]
  split
  · rename_i h
    rw [if_pos h]
  · rename_i h
    rw [if_neg h]

lemma laterComponents_trimmed (t : List Bytes) :
    laterComponents (trimmed t) = laterComponents t := by
  induction t with
  | nil => rfl
  | cons s t ih =>
    have hlater : laterComponents (s :: t) = laterComponents [s] ++ laterComponents t :=
      laterComponents_append [s] t
    rw [hlater, ← ih, trimmed_cons]
    by_cases ht : trimmed t = []
    · rw [if_pos ht, ht]
      by_cases hi : ignorable s = true
      · rw [if_pos hi, laterComponents_of_ignorable hi]
        rfl
      · rw [if_neg hi]
        exact (List.append_nil _).symm
    · rw [if_neg ht]
      exact laterComponents_append [s] _

/-- Trimming leaves nothing, or a part that is a component at the end. -/
lemma trimmed_cases (t : List Bytes) :
    trimmed t = [] ∨ ∃ front s, trimmed t = front ++ [s] ∧ ignorable s = false := by
  induction t with
  | nil => exact .inl rfl
  | cons s t ih =>
    rw [trimmed_cons]
    by_cases ht : trimmed t = []
    · rw [if_pos ht]
      by_cases hi : ignorable s = true
      · exact .inl (if_pos hi)
      · exact .inr ⟨[], s, if_neg hi, by simpa using hi⟩
    · rw [if_neg ht]
      obtain ⟨front, l, hl, hi⟩ := ih.resolve_left ht
      exact .inr ⟨s :: front, l, by rw [hl, List.cons_append], hi⟩

lemma mem_of_mem_trimmed {t : List Bytes} {s : Bytes} (h : s ∈ trimmed t) : s ∈ t := by
  induction t with
  | nil => exact h
  | cons u t ih =>
    rw [trimmed_cons] at h
    by_cases ht : trimmed t = []
    · rw [if_pos ht] at h
      split at h
      · cases h
      · rw [List.mem_singleton.1 h]
        exact List.mem_cons_self
    · rw [if_neg ht] at h
      rcases List.mem_cons.1 h with rfl | h
      · exact List.mem_cons_self
      · exact List.mem_cons_of_mem _ (ih h)

/-- The component of the first part when other parts follow. -/
def firstComponent (head : Bytes) : Component :=
  if head = [] then .root else componentOf head

lemma partComponents_eq_cons {head : Bytes} {tail : List Bytes} (h : tail ≠ []) :
    partComponents (head :: tail) = firstComponent head :: laterComponents tail := by
  by_cases hh : head = [] <;> simp [partComponents, firstComponent, h, hh]

/-- The path before the trimmed tail ends in its last part, as `parent?` makes it. -/
def parentBytes (head : Bytes) (front : List Bytes) : Bytes :=
  if trimmed front = [] then if head = [] then [separator] else head
  else joinWithSeparator separator (head :: trimmed front)

lemma partComponents_parentBytes {head : Bytes} {front : List Bytes}
    (h : ∀ s ∈ head :: front, separator ∉ s) :
    partComponents (splitAtSeparator separator (parentBytes head front)) =
      firstComponent head :: laterComponents front := by
  rw [← laterComponents_trimmed front]
  unfold parentBytes
  by_cases hnil : trimmed front = []
  · rw [if_pos hnil, hnil]
    by_cases hh : head = []
    · rw [if_pos hh, hh]
      rfl
    · rw [if_neg hh, splitAtSeparator_of_not_mem (h head List.mem_cons_self),
        partComponents_cons hh,
        firstComponent, if_neg hh]
  · rw [if_neg hnil, splitAtSeparator_joinWithSeparator, partComponents_eq_cons hnil]
    intro s hs
    rcases List.mem_cons.1 hs with rfl | hs
    · exact h s List.mem_cons_self
    · exact h s (List.mem_cons_of_mem _ (mem_of_mem_trimmed hs))

lemma parent?_of_trimmed {p : Path} {head : Bytes} {tail front : List Bytes}
    {s : Bytes} (hp : splitAtSeparator separator p.bytes = head :: tail)
    (ht : trimmed tail = front ++ [s]) : p.parent? = some ⟨parentBytes head front⟩ := by
  obtain ⟨u, t, hut⟩ := List.exists_cons_of_ne_nil (l := front ++ [s]) (by simp)
  have hdrop : (u :: t).dropLast = front := by rw [← hut, List.dropLast_concat]
  simp only [parent?, segments, hp, ht, hut, hdrop, parentBytes]
  split
  · rename_i hnil
    rw [if_pos hnil]
  · rename_i hne
    rw [if_neg hne]

/-- A path with a parent has one component more than the parent; a path without one has no
component but perhaps the root. -/
theorem parent?_cases (p : Path) :
    (p.parent? = none ∧ ∀ c ∈ p.components, c = .root) ∨
    ∃ q c, p.parent? = some q ∧ c ≠ .root ∧ p.components = q.components ++ [c] := by
  obtain ⟨head, tail, hp⟩ := exists_splitAtSeparator_eq_cons separator p.bytes
  have hseg : p.segments = (head, tail) := by rw [segments, hp]
  have hparts : ∀ s ∈ head :: tail, separator ∉ s := fun s hs =>
    not_mem_of_mem_splitAtSeparator (hp ▸ hs)
  rw [components_eq, hp]
  rcases trimmed_cases tail with ht | ⟨front, s, ht, hs⟩
  · have hlater : laterComponents tail = [] := by rw [← laterComponents_trimmed, ht]; rfl
    by_cases hh : head = []
    · refine .inl ⟨by simp only [parent?, hseg, ht, hh, ite_true], ?_⟩
      intro c hc
      by_cases htail : tail = []
      · rw [hh, htail] at hc
        cases hc
      · rw [partComponents_eq_cons htail, hlater, List.mem_singleton] at hc
        rw [hc, firstComponent, if_pos hh]
    · refine .inr ⟨⟨[]⟩, componentOf head, ?_, componentOf_ne_root head, ?_⟩
      · simp only [parent?, hseg, ht, if_neg hh]
      · rw [partComponents_cons hh, hlater, components_mk]
        rfl
  · refine .inr ⟨_, componentOf s, parent?_of_trimmed hp ht, componentOf_ne_root s, ?_⟩
    have htail : tail ≠ [] := by
      rintro rfl
      cases front <;> cases ht
    have hfront : ∀ u ∈ head :: front, separator ∉ u := by
      intro u hu
      rcases List.mem_cons.1 hu with rfl | hu
      · exact hparts u List.mem_cons_self
      · refine hparts u (List.mem_cons_of_mem _ (mem_of_mem_trimmed ?_))
        rw [ht]
        exact List.mem_append_left _ hu
    rw [partComponents_eq_cons htail, ← laterComponents_trimmed, ht, laterComponents_append,
      laterComponents_of_not_ignorable hs, components_mk, partComponents_parentBytes hfront,
      List.cons_append]

lemma components_of_parent? {p q : Path} (h : p.parent? = some q) :
    ∃ c, c ≠ .root ∧ p.components = q.components ++ [c] := by
  rcases parent?_cases p with ⟨hn, -⟩ | ⟨q', c, hq, hc, hp⟩
  · cases h.symm.trans hn
  · cases h.symm.trans hq
    exact ⟨c, hc, hp⟩

lemma exists_parent? {p : Path} {d : List Component} {c : Component} (hc : c ≠ .root)
    (h : p.components = d ++ [c]) : ∃ q, p.parent? = some q ∧ q.components = d := by
  rcases parent?_cases p with ⟨-, hr⟩ | ⟨q, c', hq, -, hp⟩
  · exact absurd (hr c (h ▸ by simp)) hc
  · exact ⟨q, hq, (List.append_inj' (hp.symm.trans h) rfl).1⟩

lemma fileName?_eq_some_iff {p : Path} {name : Bytes} :
    p.fileName? = some name ↔ ∃ d, p.components = d ++ [.normal name] := by
  rw [← List.getLast?_eq_some_iff, fileName?]
  split
  · rename_i n hn
    rw [hn]
    simp
  · rename_i hn
    constructor
    · rintro ⟨⟩
    · exact fun h => absurd h (hn name)

end WasmBundle.Proofs
