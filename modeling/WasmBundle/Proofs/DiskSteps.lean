import WasmBundle.Proofs.DiskPaths
import WasmBundle.Proofs.PathSteps

/-!
# Following steps on a disk

A part that is no step stays in the directory where it is met, so a path that ends in a name leads
where its steps lead, however it is spelled. Whoever follows it to the end has been in the directory
that holds the name.
-/

namespace WasmBundle.Proofs
open Disk

variable {d : Disk} {links : Nat} {w : Way} {l : Location}

/-- The last part is a step. -/
def EndsInStep (ps : List Bytes) : Prop :=
  ∃ last, ps.getLast? = some last ∧ Path.ignorable last = false

/-- The same parts, or parts with the same steps that end in a step. -/
def Alike (ps qs : List Bytes) : Prop :=
  ps = qs ∨ (ps.filter (fun s => !Path.ignorable s) = qs.filter (fun s => !Path.ignorable s) ∧
    EndsInStep ps ∧ EndsInStep qs)

lemma EndsInStep.ne_nil {ps : List Bytes} (h : EndsInStep ps) : ps ≠ [] := by
  rintro rfl
  obtain ⟨last, hl, -⟩ := h
  cases hl

lemma EndsInStep.filter_ne_nil {ps : List Bytes} (h : EndsInStep ps) :
    ps.filter (fun s => !Path.ignorable s) ≠ [] := by
  obtain ⟨last, hl, hi⟩ := h
  exact List.ne_nil_of_mem (List.mem_filter.2 ⟨List.mem_of_getLast? hl, by simp [hi]⟩)

lemma endsInStep_append {qs : List Bytes} (hqs : qs ≠ []) (ps : List Bytes) :
    EndsInStep (ps ++ qs) ↔ EndsInStep qs := by
  simp [EndsInStep, List.getLast?_append, List.getLast?_eq_some_getLast hqs]

lemma Alike.append {ps qs : List Bytes} (h : Alike ps qs) (front : List Bytes) :
    Alike (front ++ ps) (front ++ qs) := by
  rcases h with rfl | ⟨hsteps, hp, hq⟩
  · exact .inl rfl
  · refine .inr ⟨by rw [List.filter_append, List.filter_append, hsteps], ?_, ?_⟩
    · exact (endsInStep_append hp.ne_nil front).2 hp
    · exact (endsInStep_append hq.ne_nil front).2 hq

/-- Behind parts that are no steps comes the same first step, and parts that are alike. -/
lemma Alike.cons {part : Bytes} {rest qs : List Bytes}
    (hpart : Path.ignorable part = false) (h : Alike (part :: rest) qs) :
    ∃ front rest', qs = front ++ part :: rest' ∧ (∀ s ∈ front, Path.ignorable s = true) ∧
      Alike rest rest' := by
  rcases h with rfl | ⟨hsteps, hp, hq⟩
  · exact ⟨[], rest, rfl, by simp, .inl rfl⟩
  · rw [List.filter_cons_of_pos (by simp [hpart])] at hsteps
    obtain ⟨front, rest', rfl, hfront, -, hrest⟩ := List.filter_eq_cons_iff.1 hsteps.symm
    refine ⟨front, rest', rfl, fun s hs => by simpa using hfront s hs, ?_⟩
    have hp' : rest ≠ [] → EndsInStep rest := fun hne => (endsInStep_append hne [part]).1 hp
    have hq' : rest' ≠ [] → EndsInStep rest' := fun hne =>
      (endsInStep_append hne (front ++ [part])).1 (by simpa using hq)
    by_cases hnil : rest = []
    · by_cases hnil' : rest' = []
      · exact .inl (hnil.trans hnil'.symm)
      · exact absurd (by rw [hrest, hnil, List.filter_nil]) (hq' hnil').filter_ne_nil
    · have hnil' : rest' ≠ [] := by
        rintro rfl
        exact (hp' hnil).filter_ne_nil hrest.symm
      exact .inr ⟨hrest.symm, hp' hnil, hq' hnil'⟩

lemma arrives_of_ignorable {mayBeNew : Bool} {a : Attributes} {front rest : List Bytes}
    (hdir : (d.here w).entry = .directory a) (hfront : ∀ s ∈ front, Path.ignorable s = true)
    (h : Arrives d mayBeNew links w rest l) : Arrives d mayBeNew links w (front ++ rest) l := by
  induction front with
  | nil => exact h
  | cons s front ih =>
    exact .stay hdir (hfront s List.mem_cons_self)
      (ih fun t ht => hfront t (List.mem_cons_of_mem _ ht))

/-- Parts that are alike lead to the same location. -/
theorem arrives_of_alike {mayBeNew : Bool} {ps qs : List Bytes} (h : Alike ps qs)
    (hr : Arrives d mayBeNew links w ps l) : Arrives d mayBeNew links w qs l := by
  -- Other parts may be in front of the next step, so the induction is on the walk.
  induction hr generalizing qs with
  | done links w =>
    rcases h with rfl | ⟨-, hp, -⟩
    · exact .done links w
    · exact absurd rfl hp.ne_nil
  | @stay links w part rest l a hdir hpart hrest ih =>
    rcases h with rfl | ⟨hsteps, hp, hq⟩
    · exact .stay hdir hpart hrest
    · refine ih (.inr ⟨?_, ?_, hq⟩)
      · rwa [List.filter_cons_of_neg (by simp [hpart])] at hsteps
      · refine (endsInStep_append ?_ [part]).1 hp
        rintro rfl
        obtain ⟨last, hl, hi⟩ := hp
        rw [List.getLast?_singleton, Option.some.injEq] at hl
        exact absurd (hl ▸ hpart) (by simp [hi])
  | up hdir _ ih =>
    obtain ⟨front, rest', rfl, hfront, halike⟩ := h.cons (by decide)
    exact arrives_of_ignorable hdir hfront (.up hdir (ih halike))
  | new hdir hname hnone hnew =>
    obtain ⟨front, rest', rfl, hfront, halike⟩ := h.cons hname.isPart
    rcases halike with rfl | ⟨-, hnil, -⟩
    · exact arrives_of_ignorable hdir hfront (.new hdir hname hnone hnew)
    · exact absurd rfl hnil.ne_nil
  | link hdir hname hchild hlink _ ih =>
    obtain ⟨front, rest', rfl, hfront, halike⟩ := h.cons hname.isPart
    exact arrives_of_ignorable hdir hfront (.link hdir hname hchild hlink (ih (halike.append _)))
  | enter hdir hname hchild hplain _ ih =>
    obtain ⟨front, rest', rfl, hfront, halike⟩ := h.cons hname.isPart
    exact arrives_of_ignorable hdir hfront (.enter hdir hname hchild hplain (ih halike))

/-- What parts lead to is reached on from where those in front of the others lead. -/
theorem exists_way_of_append {ps qs : List Bytes}
    (hr : Arrives d false links w (ps ++ qs) l) (hw : Leads d w) :
    ∃ w' k, Arrives d false links w ps w'.location ∧ Leads d w' ∧ Arrives d false k w' qs l := by
  generalize hps : ps ++ qs = parts at hr
  induction hr generalizing ps with
  | done links w =>
    obtain ⟨rfl, rfl⟩ := List.append_eq_nil_iff.1 hps
    exact ⟨w, links, .done links w, hw, .done links w⟩
  | @stay links w part rest l a hdir hpart hrest ih =>
    rcases List.append_eq_cons_iff.1 hps with ⟨rfl, rfl⟩ | ⟨ps, rfl, rfl⟩
    · exact ⟨w, links, .done links w, hw, .stay hdir hpart hrest⟩
    · obtain ⟨w', k, hfront, hw', hback⟩ := ih hw rfl
      exact ⟨w', k, .stay hdir hpart hfront, hw', hback⟩
  | @up links w rest l a hdir hrest ih =>
    rcases List.append_eq_cons_iff.1 hps with ⟨rfl, rfl⟩ | ⟨ps, rfl, rfl⟩
    · exact ⟨w, links, .done links w, hw, .up hdir hrest⟩
    · obtain ⟨w', k, hfront, hw', hback⟩ := ih hw.tail rfl
      exact ⟨w', k, .up hdir hfront, hw', hback⟩
  | new _ _ _ hnew => cases hnew
  | @link links w part rest l a t target hdir hname hchild hlink hrest ih =>
    rcases List.append_eq_cons_iff.1 hps with ⟨rfl, rfl⟩ | ⟨ps, rfl, rfl⟩
    · exact ⟨w, links + 1, .done (links + 1) w, hw, .link hdir hname hchild hlink hrest⟩
    · have hstart : Leads d (if target.isAbsolute then [] else w) := by
        split
        · exact .root
        · exact hw
      obtain ⟨w', k, hfront, hw', hback⟩ := ih hstart (List.append_assoc _ ps qs)
      exact ⟨w', k, .link hdir hname hchild hlink hfront, hw', hback⟩
  | @enter links w part rest l a t hdir hname hchild hplain hrest ih =>
    rcases List.append_eq_cons_iff.1 hps with ⟨rfl, rfl⟩ | ⟨ps, rfl, rfl⟩
    · exact ⟨w, links, .done links w, hw, .enter hdir hname hchild hplain hrest⟩
    · obtain ⟨w', k, hfront, hw', hback⟩ := ih (hw.onward hchild) rfl
      exact ⟨w', k, .enter hdir hname hchild hplain hfront, hw', hback⟩

/-- What leads to a name has been in the directory that holds it. -/
theorem exists_way_of_concat {ps : List Bytes} {name : Bytes}
    (hstep : Path.ignorable name = false) (hparent : name ≠ Path.up)
    (hr : Arrives d false links w (ps ++ [name]) l) (hw : Leads d w) :
    ∃ w' a t, Arrives d false links w ps w'.location ∧ Leads d w' ∧
      (d.here w').entry = .directory a ∧ (d.here w').child? name = some t := by
  obtain ⟨w', k, hfront, hw', hback⟩ := exists_way_of_append hr hw
  cases hback with
  | stay _ hpart _ => exact absurd hpart (by simp [hstep])
  | up _ _ => exact absurd rfl hparent
  | new _ _ _ hnew => cases hnew
  | link hdir _ hchild _ _ => exact ⟨w', _, _, hfront, hw', hdir, hchild⟩
  | enter hdir _ hchild _ _ => exact ⟨w', _, _, hfront, hw', hdir, hchild⟩

lemma fault?_eq_none_iff {p : Path} : fault? p = none ↔
    0 ∉ p.bytes ∧ p.bytes.length ≤ pathLimit ∧ p.isEmpty = false := by
  unfold fault?
  by_cases hnul : 0 ∈ p.bytes
  · simp [hnul]
  · by_cases hfits : pathLimit < p.bytes.length
    · simp [hnul, hfits, Nat.not_le.2 hfits]
    · cases hempty : p.isEmpty <;> simp [hnul, hfits, Nat.not_lt.1 hfits]

lemma fault?_of_sublist {p q : Path} (h : q.bytes.Sublist p.bytes) (hq : q.isEmpty = false)
    (hp : fault? p = none) : fault? q = none := by
  obtain ⟨hnul, hfits, -⟩ := fault?_eq_none_iff.1 hp
  exact fault?_eq_none_iff.2 ⟨fun hmem => hnul (h.subset hmem), Nat.le_trans h.length_le hfits, hq⟩

lemma locate_eq_ok_iff {p : Path} : d.locate p = .ok l ↔ fault? p = none ∧
    ∃ w, d.start p = .ok w ∧ Arrives d false linkLimit w (parts p) l := by
  unfold Disk.locate Disk.walkFrom
  cases fault? p with
  | some e => simp
  | none => cases d.start p <;> simp [walk_eq_ok_iff]

lemma start_congr {p q : Path} (h : p.isAbsolute = q.isAbsolute) : d.start p = d.start q := by
  rw [Disk.start, Disk.start, h]

/-- Paths with the same steps that end in one lead to the same location. -/
theorem locate_of_sameWay {p q : Path} (h : SameWay p q) (hp : EndsInStep (parts p))
    (hq : EndsInStep (parts q)) (hfault : fault? q = none) (hl : d.locate p = .ok l) :
    d.locate q = .ok l := by
  obtain ⟨-, w, hw, harrives⟩ := locate_eq_ok_iff.1 hl
  refine locate_eq_ok_iff.2 ⟨hfault, w, (start_congr h.absolute).symm.trans hw, ?_⟩
  exact arrives_of_alike (.inr ⟨h.steps, hp, hq⟩) harrives

end WasmBundle.Proofs
