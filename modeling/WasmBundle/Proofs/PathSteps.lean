import Mathlib.Data.List.Flatten
import WasmBundle.Proofs.PathComponents

/-!
# The steps of paths

The steps of a path are the parts of its text without the empty ones and `.`, which lead nowhere.
Paths with the same components have the same steps, and so have a path and any spelling of it with
fewer separators or without a leading `.`.
-/

namespace WasmBundle.Proofs
open WasmBundle.Path

/-- The parts of a path that lead somewhere. -/
def steps (p : Path) : List Bytes :=
  (splitAtSeparator separator p.bytes).filter fun s => !ignorable s

/-- The paths begin at the same place and have the same steps. -/
structure SameWay (p q : Path) : Prop where
  absolute : p.isAbsolute = q.isAbsolute
  steps : steps p = steps q

lemma SameWay.symm {p q : Path} (h : SameWay p q) : SameWay q p := ⟨h.absolute.symm, h.steps.symm⟩

lemma SameWay.trans {p q r : Path} (h : SameWay p q) (h' : SameWay q r) : SameWay p r :=
  ⟨h.absolute.trans h'.absolute, h.steps.trans h'.steps⟩

lemma componentOf_injective : Function.Injective componentOf := by
  intro s t h
  by_cases hs : s = [dot]
  · rw [(componentOf_eq_current_iff s).2 hs] at h
    rw [hs, (componentOf_eq_current_iff t).1 h.symm]
  have ht : t ≠ [dot] := by
    intro ht
    rw [(componentOf_eq_current_iff t).2 ht] at h
    exact hs ((componentOf_eq_current_iff s).1 h)
  unfold componentOf at h
  rw [if_neg hs, if_neg ht] at h
  split at h
  · rename_i hs'
    split at h
    · rename_i ht'
      rw [hs', ht']
    · cases h
  · split at h
    · cases h
    · injection h

/-- Components without the root and `.`, which are no steps. -/
lemma map_componentOf_steps (p : Path) :
    (steps p).map componentOf = p.components.filter fun c => c ≠ .current ∧ c ≠ .root := by
  obtain ⟨head, tail, h⟩ := exists_splitAtSeparator_eq_cons separator p.bytes
  have hlater : (laterComponents tail).filter (fun c => c ≠ .current ∧ c ≠ .root) =
      laterComponents tail := by
    refine List.filter_eq_self.2 fun c hc => decide_eq_true ⟨?_, ?_⟩
    · rintro rfl
      exact current_not_mem_laterComponents tail hc
    · rintro rfl
      exact root_not_mem_laterComponents tail hc
  have hsteps : (steps p).map componentOf = laterComponents [head] ++ laterComponents tail := by
    rw [steps, h]
    exact laterComponents_append [head] tail
  rw [hsteps, components_eq, h, partComponents, List.filter_append, hlater]
  congr 1
  by_cases hhead : head = []
  · by_cases htail : tail = [] <;> simp [hhead, htail, laterComponents, ignorable]
  · rw [if_neg hhead]
    by_cases hdot : head = [dot]
    · rw [laterComponents_of_ignorable ((ignorable_iff head).2 (.inr hdot)),
        (componentOf_eq_current_iff head).2 hdot]
      simp
    · have hcurrent : componentOf head ≠ .current := fun e =>
        hdot ((componentOf_eq_current_iff head).1 e)
      rw [laterComponents_of_not_ignorable (by simp [ignorable, hhead, hdot])]
      simp [hcurrent, componentOf_ne_root head]

lemma sameWay_of_components {p q : Path} (h : p.components = q.components) : SameWay p q where
  absolute := by
    rw [Bool.eq_iff_iff, ← head?_components_eq_root_iff, ← head?_components_eq_root_iff, h]
  steps := by
    refine (List.map_inj_right fun _ _ h => componentOf_injective h).1 ?_
    rw [map_componentOf_steps, map_componentOf_steps, h]

lemma steps_eq_nil_of_isEmpty {p : Path} (h : p.isEmpty = true) : steps p = [] := by
  rw [steps, List.isEmpty_iff.1 h]
  rfl

lemma steps_append_separator (a b : Bytes) :
    steps ⟨a ++ separator :: b⟩ = steps ⟨a⟩ ++ steps ⟨b⟩ := by
  simp only [steps, splitAtSeparator_append_sep, List.filter_append]

lemma eq_of_bytes_eq {p q : Path} (h : p.bytes = q.bytes) : p = q :=
  Path.mk.injEq .. ▸ h

/-- The steps of a relative path come after those of the path in front. -/
lemma steps_join (p : Path) {q : Path} (hq : q.isAbsolute = false) :
    steps (p.join q) = steps p ++ steps q := by
  rw [join, if_neg (by simp [hq])]
  by_cases hp : p.isEmpty = true
  · rw [if_pos (.inl hp), steps_eq_nil_of_isEmpty hp, List.isEmpty_iff.1 hp, List.nil_append,
      List.nil_append]
  · by_cases hl : p.bytes.getLast? = some separator
    · obtain ⟨body, hb⟩ := List.getLast?_eq_some_iff.1 hl
      have hbody : steps p = steps ⟨body⟩ := by
        rw [eq_of_bytes_eq (q := ⟨body ++ [separator]⟩) hb, steps_append_separator]
        exact List.append_nil _
      rw [if_pos (.inr hl), hb, List.append_assoc, List.singleton_append, steps_append_separator,
        hbody]
    · rw [if_neg (not_or.2 ⟨hp, hl⟩), steps_append_separator]

lemma isEmpty_of_absolute {p : Path} (hp : p.isAbsolute = true) : p.isEmpty = false := by
  cases h : p.isEmpty with
  | false => rfl
  | true => simp [isAbsolute, List.isEmpty_iff.1 h] at hp

lemma isAbsolute_join {p q : Path} (hp : p.isEmpty = false) (hq : q.isAbsolute = false) :
    (p.join q).isAbsolute = p.isAbsolute := by
  obtain ⟨c, r, hc⟩ := List.exists_cons_of_ne_nil
    (l := p.bytes) (by simpa [isEmpty] using hp)
  rw [isAbsolute, isAbsolute, bytes_join, if_neg (by simp [hq])]
  split <;> simp [hc]

lemma isEmpty_join {p q : Path} (hp : p.isEmpty = false) (hq : q.isAbsolute = false) :
    (p.join q).isEmpty = false := by
  have hne : p.bytes ≠ [] := by simpa [isEmpty] using hp
  rw [isEmpty, bytes_join, if_neg (by simp [hq])]
  split <;> simp [hne]

/-- The text that `join` puts in front of a relative path. -/
def leading (p : Path) : Bytes :=
  if p.isEmpty ∨ p.bytes.getLast? = some separator then p.bytes else p.bytes ++ [separator]

lemma bytes_join_of_relative (p : Path) {q : Path} (hq : q.isAbsolute = false) :
    (p.join q).bytes = leading p ++ q.bytes := by
  rw [bytes_join, if_neg (by simp [hq]), leading]
  split <;> simp

lemma getLast?_leading {p : Path} (hp : p.isEmpty = false) :
    (leading p).getLast? = some separator := by
  unfold leading
  split
  · rename_i h
    exact h.resolve_left (by simp [hp])
  · exact List.getLast?_concat

lemma join_of_absolute (p : Path) {q : Path} (hq : q.isAbsolute = true) : p.join q = q := by
  rw [join, if_pos hq]

lemma leading_of_bytes_eq {p r : Path} (h : r.bytes = leading p) : leading r = leading p := by
  unfold leading at h ⊢
  by_cases hp : p.isEmpty ∨ p.bytes.getLast? = some separator
  · rw [if_pos hp] at h ⊢
    rw [if_pos, h]
    simpa [isEmpty, h] using hp
  · rw [if_neg hp] at h ⊢
    rw [if_pos, h]
    exact .inr (by rw [h, List.getLast?_concat])

lemma leading_join (p : Path) {q : Path} (hq : q.isAbsolute = false) :
    leading (p.join q) = leading p ++ leading q := by
  have hbytes := bytes_join_of_relative p hq
  by_cases hempty : q.isEmpty = true
  · have hnil : q.bytes = [] := List.isEmpty_iff.1 hempty
    have hq' : leading q = [] := by rw [leading, if_pos (.inl hempty), hnil]
    rw [hnil, List.append_nil] at hbytes
    rw [hq', List.append_nil, leading_of_bytes_eq hbytes]
  · have hne : q.bytes ≠ [] := fun h => hempty (List.isEmpty_iff.2 h)
    have hlast : (p.join q).bytes.getLast? = q.bytes.getLast? := by
      rw [hbytes]
      simp [List.getLast?_append, List.getLast?_eq_some_getLast hne]
    have hjoined : (p.join q).isEmpty = false := by simp [isEmpty, hbytes, hne]
    have hempty : q.isEmpty = false := by simpa using hempty
    have hq' : leading q =
        if q.bytes.getLast? = some separator then q.bytes else q.bytes ++ [separator] := by
      simp [leading, hempty]
    have hjoined' : leading (p.join q) = if q.bytes.getLast? = some separator
        then (p.join q).bytes else (p.join q).bytes ++ [separator] := by
      simp [leading, hjoined, hlast]
    rw [hjoined', hq', hbytes]
    split
    · rfl
    · rw [List.append_assoc]

theorem join_assoc (p q r : Path) : (p.join q).join r = p.join (q.join r) := by
  by_cases hr : r.isAbsolute = true
  · rw [join_of_absolute _ hr, join_of_absolute _ hr, join_of_absolute _ hr]
  have hr : r.isAbsolute = false := by simpa using hr
  have hjoined : q.isEmpty = false → (q.join r).isAbsolute = q.isAbsolute := fun h =>
    isAbsolute_join h hr
  by_cases hq : q.isAbsolute = true
  · rw [join_of_absolute _ hq, join_of_absolute p ((hjoined (isEmpty_of_absolute hq)).trans hq)]
  · have hq : q.isAbsolute = false := by simpa using hq
    have hqr : (q.join r).isAbsolute = false := by
      cases h : q.isEmpty with
      | false => exact (hjoined h).trans hq
      | true =>
        rw [isAbsolute, bytes_join_of_relative q hr, leading, if_pos (.inl h),
          List.isEmpty_iff.1 h, List.nil_append]
        exact hr
    have hbytes : ((p.join q).join r).bytes = (p.join (q.join r)).bytes := by
      rw [bytes_join_of_relative _ hr, leading_join p hq, bytes_join_of_relative p hqr,
        bytes_join_of_relative q hr, List.append_assoc]
    exact eq_of_bytes_eq hbytes

lemma sublist_join (p q : Path) : (p.join q).bytes.Sublist (p.bytes ++ separator :: q.bytes) := by
  rw [bytes_join]
  split
  · exact ((List.sublist_cons_self _ _).trans (List.sublist_append_right _ _))
  · split
    · exact (List.Sublist.refl _).append (List.sublist_cons_self _ _)
    · exact List.Sublist.refl _

lemma sublist_join_left (p : Path) {q : Path} (hq : q.isAbsolute = false) :
    p.bytes.Sublist (p.join q).bytes := by
  rw [bytes_join, if_neg (by simp [hq])]
  split <;> exact List.sublist_append_left _ _

lemma join_sublist_join (p : Path) {q r : Path} (habs : q.isAbsolute = r.isAbsolute)
    (h : q.bytes.Sublist r.bytes) : (p.join q).bytes.Sublist (p.join r).bytes := by
  by_cases hr : r.isAbsolute = true
  · rwa [join_of_absolute p hr, join_of_absolute p (habs.trans hr)]
  · have hr : r.isAbsolute = false := by simpa using hr
    rw [bytes_join_of_relative p hr, bytes_join_of_relative p (habs.trans hr)]
    exact (List.Sublist.refl _).append h

lemma suffix_join (p q : Path) : q.bytes <:+ (p.join q).bytes := by
  rw [bytes_join]
  split
  · exact List.suffix_rfl
  · split
    · exact List.suffix_append _ _
    · exact (List.suffix_cons _ _).trans (List.suffix_append _ _)

/-- What is joined to any path is not lost. -/
lemma isEmpty_join_of_right (p : Path) {q : Path} (hq : q.isEmpty = false) :
    (p.join q).isEmpty = false := by
  have hne : q.bytes ≠ [] := by simpa [isEmpty] using hq
  have hjoined : (p.join q).bytes ≠ [] := (suffix_join p q).ne_nil hne
  simpa [isEmpty] using hjoined

lemma empty_join (p : Path) : (⟨[]⟩ : Path).join p = p := by
  by_cases hp : p.isAbsolute = true
  · exact join_of_absolute _ hp
  · have hp : p.isAbsolute = false := by simpa using hp
    exact eq_of_bytes_eq (bytes_join_of_relative _ hp)

lemma isAbsolute_join_of_left {p : Path} (hp : p.isAbsolute = true) (q : Path) :
    (p.join q).isAbsolute = true := by
  by_cases hq : q.isAbsolute = true
  · rwa [join_of_absolute p hq]
  · rw [isAbsolute_join (isEmpty_of_absolute hp) (by simpa using hq), hp]

lemma joinWithSeparator_cons (sep : UInt8) (s : Bytes) (t : List Bytes) :
    joinWithSeparator sep (s :: t) = s ++ t.flatMap fun part => sep :: part := by
  induction t generalizing s with
  | nil => simp [joinWithSeparator]
  | cons u t ih => simp [joinWithSeparator, ih]

lemma joinWithSeparator_sublist (sep : UInt8) (s : Bytes) {t u : List Bytes}
    (h : t.Sublist u) :
    (joinWithSeparator sep (s :: t)).Sublist (joinWithSeparator sep (s :: u)) := by
  rw [joinWithSeparator_cons, joinWithSeparator_cons]
  exact (List.Sublist.refl _).append (h.flatMap _)

lemma trimmed_sublist (t : List Bytes) : (trimmed t).Sublist t := by
  induction t with
  | nil => exact List.Sublist.refl _
  | cons s t ih =>
    rw [trimmed_cons]
    split
    · split
      · exact List.nil_sublist _
      · exact (List.nil_sublist t).cons_cons s
    · exact ih.cons_cons s

/-- A part is contained in the text. -/
lemma sublist_of_mem_splitAtSeparator {sep : UInt8} {cs s : Bytes}
    (h : s ∈ splitAtSeparator sep cs) :
    s.Sublist cs := by
  obtain ⟨head, tail, hparts⟩ := exists_splitAtSeparator_eq_cons sep cs
  rw [← joinWithSeparator_splitAtSeparator sep cs, hparts, joinWithSeparator_cons]
  rw [hparts] at h
  rcases List.mem_cons.1 h with rfl | h
  · exact List.sublist_append_left _ _
  · refine List.Sublist.trans ?_ (List.sublist_append_right _ _)
    exact (List.sublist_cons_self sep s).trans
      (List.sublist_flatten_of_mem (List.mem_map_of_mem h))

/-- Only separators and dots are in no step. -/
lemma mem_step {p : Path} {c : UInt8} (hsep : c ≠ separator) (hdot : c ≠ dot) (h : c ∈ p.bytes) :
    ∃ s ∈ steps p, c ∈ s := by
  rw [← joinWithSeparator_splitAtSeparator separator p.bytes] at h
  obtain ⟨part, hpart, hc⟩ := (mem_joinWithSeparator h).resolve_left hsep
  refine ⟨part, List.mem_filter.2 ⟨hpart, ?_⟩, hc⟩
  have hi : ¬ignorable part = true := by
    intro hi
    rcases (ignorable_iff part).1 hi with rfl | rfl
    · cases hc
    · exact hdot (List.mem_singleton.1 hc)
  simpa using hi

lemma mem_of_mem_step {p : Path} {c : UInt8} {s : Bytes} (hs : s ∈ steps p) (hc : c ∈ s) :
    c ∈ p.bytes :=
  (sublist_of_mem_splitAtSeparator (List.mem_filter.1 hs).1).subset hc

lemma eq_of_componentOf {s name : Bytes}
    (h : componentOf s = .normal name) : s = name := by
  unfold componentOf at h
  split at h
  · cases h
  · split at h
    · cases h
    · cases h
      rfl

lemma mem_steps_of_fileName {p : Path} {name : Bytes} (h : p.fileName? = some name) :
    name ∈ steps p := by
  obtain ⟨d, hd⟩ := fileName?_eq_some_iff.1 h
  have hmem : Component.normal name ∈ (steps p).map componentOf := by
    rw [map_componentOf_steps, hd]
    simp
  obtain ⟨s, hs, hname⟩ := List.mem_map.1 hmem
  rwa [← eq_of_componentOf hname]

/-- The text of a parent is that of its parts, except for the root. -/
lemma parentBytes_cases (head : Bytes) (front : List Bytes) :
    (head = [] ∧ trimmed front = [] ∧ parentBytes head front = [separator]) ∨
      parentBytes head front = joinWithSeparator separator (head :: trimmed front) := by
  unfold parentBytes
  by_cases hfront : trimmed front = []
  · by_cases hhead : head = []
    · exact .inl ⟨hhead, hfront, by rw [if_pos hfront, if_pos hhead]⟩
    · exact .inr (by rw [if_pos hfront, if_neg hhead, hfront]; rfl)
  · exact .inr (if_neg hfront)

/-- A path contains the text of its file name behind its parent. -/
lemma join_fileName_sublist {p q : Path} {name : Bytes} (hq : p.parent? = some q)
    (hname : p.fileName? = some name) (hne : q.isEmpty = false) :
    (q.join ⟨name⟩).bytes.Sublist p.bytes := by
  obtain ⟨head, tail, hp⟩ := exists_splitAtSeparator_eq_cons separator p.bytes
  have htext : p.bytes = joinWithSeparator separator (head :: tail) := by
    rw [← hp, joinWithSeparator_splitAtSeparator]
  rcases trimmed_cases tail with ht | ⟨front, s, ht, hs⟩
  · simp only [parent?, segments, hp, ht] at hq
    split at hq
    · cases hq
    · cases hq
      cases hne
  · obtain rfl : q = ⟨parentBytes head front⟩ :=
      Option.some.inj (hq.symm.trans (parent?_of_trimmed hp ht))
    have htail : tail ≠ [] := by
      rintro rfl
      cases front <;> cases ht
    obtain ⟨d, hd⟩ := fileName?_eq_some_iff.1 hname
    rw [components_eq, hp, partComponents_eq_cons htail, ← laterComponents_trimmed, ht,
      laterComponents_append, laterComponents_of_not_ignorable hs, ← List.cons_append] at hd
    obtain rfl : name = s :=
      (eq_of_componentOf (List.cons.inj (List.append_inj' hd rfl).2).1).symm
    have hfront : (trimmed front ++ [name]).Sublist tail :=
      ((trimmed_sublist front).append (List.Sublist.refl _)).trans (ht ▸ trimmed_sublist tail)
    have hsub := joinWithSeparator_sublist separator head hfront
    rw [htext]
    rcases parentBytes_cases head front with ⟨rfl, hnil, hroot⟩ | hbytes
    · rw [hnil] at hsub
      rw [hroot]
      refine List.Sublist.trans ?_ hsub
      rw [bytes_join]
      split
      · exact List.sublist_cons_self separator _
      · exact List.Sublist.refl _
    · refine (sublist_join _ _).trans (List.Sublist.trans ?_ hsub)
      rw [hbytes]
      simp [joinWithSeparator_cons]

end WasmBundle.Proofs
