import WasmBundle.Disk.Source
import WasmBundle.Proofs.PathSteps

/-!
# The spelling of listings

The paths of a listing are spelled part by part from the spelling of their directory. That keeps the
steps and adds no text, so a listed path leads where a path into the directory leads. Only where an
empty part follows leading dots is there no spelling: the directory is `Hidden`.
-/

namespace WasmBundle.Proofs
open WasmBundle.Path

/-- An empty part follows one leading `.` or more. -/
def Hidden (p : Path) : Prop :=
  ∃ n rest, splitAtSeparator separator p.bytes = List.replicate (n + 1) [dot] ++ [] :: rest

variable {p q : Path} {part : Bytes} {parts : List Bytes}

/-- A path goes on from another one by the steps among some parts, and has no more text. -/
structure GoesOn (p : Path) (parts : List Bytes) (q : Path) : Prop where
  nonempty : q.isEmpty = false
  absolute : q.isAbsolute = p.isAbsolute
  steps : steps q = steps p ++ parts.filter fun s => !ignorable s
  text : q.bytes.Sublist (p.bytes ++ parts.flatMap fun s => separator :: s)

lemma steps_mk (h : separator ∉ part) :
    steps ⟨part⟩ = [part].filter fun s => !ignorable s := by
  rw [steps, splitAtSeparator_of_not_mem h]

lemma isAbsolute_mk (h : separator ∉ part) : (Path.mk part).isAbsolute = false := by
  cases part with
  | nil => rfl
  | cons c r =>
    have hc : c ≠ separator := fun e => h (e ▸ List.mem_cons_self)
    simp [isAbsolute, hc]

/-- A path of which `.` is the only component has no steps. -/
lemma steps_of_current (h : p.components = [.current]) : steps p = [] ∧ p.isAbsolute = false := by
  have hsteps := map_componentOf_steps p
  rw [h] at hsteps
  refine ⟨List.map_eq_nil_iff.1 hsteps, ?_⟩
  cases habs : p.isAbsolute with
  | false => rfl
  | true =>
    have hroot := (head?_components_eq_root_iff p).2 habs
    rw [h] at hroot
    cases hroot

lemma goesOn_of_extend? (hp : p.isEmpty = false) (hpart : separator ∉ part)
    (h : Disk.extend? p part = some q) : GoesOn p [part] q := by
  unfold Disk.extend? at h
  split at h
  · rename_i hcurrent
    obtain ⟨hsteps, habs⟩ := steps_of_current hcurrent
    split at h
    · cases h
    · rename_i hne
      cases h
      refine ⟨?_, by rw [isAbsolute_mk hpart, habs], ?_, ?_⟩
      · simpa [isEmpty] using hne
      · rw [hsteps, List.nil_append, steps_mk hpart]
      · simp
  · cases h
    have hrel := isAbsolute_mk hpart
    refine ⟨isEmpty_join hp hrel, isAbsolute_join hp hrel, ?_, ?_⟩
    · rw [steps_join p hrel, steps_mk hpart]
    · simpa using sublist_join p ⟨part⟩

lemma GoesOn.refl (hp : p.isEmpty = false) : GoesOn p [] p :=
  ⟨hp, rfl, (List.append_nil _).symm, by simp⟩

lemma GoesOn.trans {r : Path} {parts' : List Bytes} (h : GoesOn p parts q)
    (h' : GoesOn q parts' r) : GoesOn p (parts ++ parts') r where
  nonempty := h'.nonempty
  absolute := h'.absolute.trans h.absolute
  steps := by rw [h'.steps, h.steps, List.filter_append, List.append_assoc]
  text := by
    rw [List.flatMap_append, ← List.append_assoc]
    exact h'.text.trans (h.text.append (List.Sublist.refl _))

lemma goesOn_of_foldlM (hp : p.isEmpty = false) (hparts : ∀ s ∈ parts, separator ∉ s)
    (h : parts.foldlM Disk.extend? p = some q) : GoesOn p parts q := by
  induction parts generalizing p with
  | nil =>
    cases h
    exact .refl hp
  | cons s parts ih =>
    rw [List.foldlM_cons] at h
    obtain ⟨r, hr, hrest⟩ := Option.bind_eq_some_iff.1 h
    have hstep := goesOn_of_extend? hp (hparts s List.mem_cons_self) hr
    exact hstep.trans (ih hstep.nonempty (fun t ht => hparts t (List.mem_cons_of_mem _ ht)) hrest)

/-- A path that has more components than a `.` can be gone on from by any parts. -/
lemma exists_foldlM_extend? (hp : p.isEmpty = false) (hcurrent : p.components ≠ [.current])
    (hparts : ∀ s ∈ parts, separator ∉ s) : ∃ q, parts.foldlM Disk.extend? p = some q := by
  induction parts generalizing p with
  | nil => exact ⟨p, rfl⟩
  | cons s parts ih =>
    have hrel : (Path.mk s).isAbsolute = false := isAbsolute_mk (hparts s List.mem_cons_self)
    have hstep : Disk.extend? p s = some (p.join ⟨s⟩) := by rw [Disk.extend?, if_neg hcurrent]
    have hcurrent' : (p.join ⟨s⟩).components ≠ [.current] := by
      rw [components_join_of_relative (by simp [hp]) (by simp [hrel])]
      intro h
      have hne : p.components ≠ [] := fun e => by simp [(components_eq_nil_iff p).1 e] at hp
      obtain ⟨c, cs, hc⟩ := List.exists_cons_of_ne_nil hne
      rw [hc] at h hcurrent
      simp_all
    rw [List.foldlM_cons, hstep]
    exact ih (isEmpty_join hp hrel) hcurrent' fun t ht => hparts t (List.mem_cons_of_mem _ ht)

/-- Parts after a leading `.` have a spelling unless they hide what follows. -/
lemma exists_foldlM_current (hparts : ∀ s ∈ parts, separator ∉ s)
    (h : ¬∃ n rest, parts = List.replicate n [dot] ++ [] :: rest) :
    ∃ q, parts.foldlM Disk.extend? "." = some q := by
  induction parts with
  | nil => exact ⟨_, rfl⟩
  | cons s parts ih =>
    have hne : s ≠ [] := by
      rintro rfl
      exact h ⟨0, parts, rfl⟩
    have hstep : Disk.extend? "." s = some ⟨s⟩ := by
      rw [Disk.extend?, if_pos (by decide), if_neg hne]
    rw [List.foldlM_cons, hstep, Option.bind_eq_bind, Option.bind_some]
    have hrest : ∀ t ∈ parts, separator ∉ t := fun t ht => hparts t (List.mem_cons_of_mem _ ht)
    by_cases hdot : s = [dot]
    · subst hdot
      refine ih hrest ?_
      rintro ⟨n, rest, rfl⟩
      exact h ⟨n + 1, rest, rfl⟩
    · refine exists_foldlM_extend? (by simpa [isEmpty] using hne) ?_ hrest
      rw [components_mk, splitAtSeparator_of_not_mem (hparts s List.mem_cons_self),
        partComponents_cons hne]
      exact fun e => hdot ((componentOf_eq_current_iff s).1 (List.cons.inj e).1)

/-- The spelling of a path in listings. -/
structure Spells (p q : Path) : Prop where
  nonempty : q.isEmpty = false
  sameWay : SameWay q p
  text : q.bytes.Sublist p.bytes
  separated : p.bytes.getLast? = some separator → q.bytes.getLast? = some separator

/-- A spelling begins with a path and goes on by the rest of the parts. -/
structure Begins (p r : Path) (rest : List Bytes) : Prop where
  spelling : Disk.spelling? p = rest.foldlM Disk.extend? r
  nonempty : r.isEmpty = false
  absolute : r.isAbsolute = p.isAbsolute
  steps : steps p = steps r ++ rest.filter fun s => !ignorable s
  text : p.bytes = r.bytes ++ rest.flatMap fun s => separator :: s
  parts : ∀ s ∈ rest, separator ∉ s

lemma bytes_eq_of_split {s : Bytes} {t : List Bytes}
    (h : splitAtSeparator separator p.bytes = s :: t) :
    p.bytes = s ++ t.flatMap fun u => separator :: u := by
  rw [← joinWithSeparator_cons, ← h, joinWithSeparator_splitAtSeparator]

/-- The first part of a path is empty only in front of the root. -/
lemma head_eq_nil_iff {s : Bytes} {t : List Bytes} (hp : p.isEmpty = false)
    (h : splitAtSeparator separator p.bytes = s :: t) : s = [] ↔ p.isAbsolute = true := by
  have htext := bytes_eq_of_split h
  have hne : p.bytes ≠ [] := by simpa [isEmpty] using hp
  rw [isAbsolute]
  cases s with
  | nil =>
    cases t with
    | nil => exact absurd htext hne
    | cons u t => simp [htext]
  | cons c r =>
    have hc : separator ∉ c :: r := not_mem_of_mem_splitAtSeparator (h ▸ List.mem_cons_self)
    have hc : c ≠ separator := fun e => hc (e ▸ List.mem_cons_self)
    simp [htext, hc]

/-- An absolute path is spelled from its first part behind the root. -/
lemma begins_of_absolute {u : Bytes} {rest : List Bytes}
    (h : splitAtSeparator separator p.bytes = [] :: u :: rest) :
    Begins p (("/" : Path).join ⟨u⟩) rest := by
  have hsep : ∀ v ∈ [] :: u :: rest, separator ∉ v := fun v hv =>
    not_mem_of_mem_splitAtSeparator (h ▸ hv)
  have htext := bytes_eq_of_split h
  have habs : p.isAbsolute = true := by simp [isAbsolute, htext]
  have hu : (Path.mk u).isAbsolute = false := isAbsolute_mk (hsep u (by simp))
  refine ⟨?_, isEmpty_join rfl hu, ?_, ?_, ?_, fun v hv => hsep v (by simp [hv])⟩
  · rw [Disk.spelling?, habs, h]
    rfl
  · rw [isAbsolute_join rfl hu, habs]
    rfl
  · have hroot : steps "/" = [] := by decide
    rw [steps, h, steps_join _ hu, steps_mk (hsep u (by simp)), hroot, List.nil_append,
      ← List.filter_append]
    rfl
  · have hroot : (("/" : Path).join ⟨u⟩).bytes = separator :: u := by
      rw [bytes_join_of_relative _ hu]
      rfl
    rw [hroot, htext]
    simp

lemma begins_of_relative {s : Bytes} {rest : List Bytes} (hs : s ≠ [])
    (h : splitAtSeparator separator p.bytes = s :: rest) (hrel : p.isAbsolute = false) :
    Begins p ⟨s⟩ rest := by
  have hsep : ∀ v ∈ s :: rest, separator ∉ v := fun v hv => not_mem_of_mem_splitAtSeparator (h ▸ hv)
  refine ⟨?_, by simpa [isEmpty] using hs, ?_, ?_, ?_,
    fun v hv => hsep v (by simp [hv])⟩
  · rw [Disk.spelling?, hrel, h, if_neg (by simp), List.foldlM_cons, Disk.extend?,
      if_pos (by decide), if_neg hs]
    rfl
  · rw [isAbsolute_mk (hsep s (by simp)), hrel]
  · rw [steps, h, steps_mk (hsep s (by simp)), ← List.filter_append, List.singleton_append]
  · exact bytes_eq_of_split h

lemma exists_begins (hp : p.isEmpty = false) : ∃ r rest, Begins p r rest := by
  obtain ⟨s, t, hparts⟩ := exists_splitAtSeparator_eq_cons separator p.bytes
  by_cases hs : s = []
  · subst hs
    have hne : p.bytes ≠ [] := by simpa [isEmpty] using hp
    obtain ⟨u, rest, rfl⟩ : ∃ u rest, t = u :: rest :=
      List.exists_cons_of_ne_nil fun ht => hne (by rw [bytes_eq_of_split hparts, ht]; rfl)
    exact ⟨_, _, begins_of_absolute hparts⟩
  · have hrel := Bool.eq_false_iff.2 fun habs => hs ((head_eq_nil_iff hp hparts).2 habs)
    exact ⟨_, _, begins_of_relative hs hparts hrel⟩

theorem exists_spelling (hp : p.isEmpty = false) (hv : ¬Hidden p) :
    ∃ q, Disk.spelling? p = some q := by
  obtain ⟨s, t, hparts⟩ := exists_splitAtSeparator_eq_cons separator p.bytes
  have hsep : ∀ u ∈ s :: t, separator ∉ u := fun u hu =>
    not_mem_of_mem_splitAtSeparator (hparts ▸ hu)
  rw [Disk.spelling?, hparts]
  cases habs : p.isAbsolute with
  | true =>
    refine exists_foldlM_extend? rfl (by decide) fun u hu => hsep u ?_
    exact List.mem_of_mem_drop hu
  | false =>
    refine exists_foldlM_current hsep ?_
    rintro ⟨n, rest, hhidden⟩
    cases n with
    | zero =>
      have habs' := (head_eq_nil_iff hp hparts).1 (List.cons.inj hhidden).1
      cases habs.symm.trans habs'
    | succ n => exact hv ⟨n, rest, hparts.trans hhidden⟩

/-- A hidden path has no spelling. -/
theorem spelling?_of_hidden (h : Hidden p) : Disk.spelling? p = none := by
  obtain ⟨n, rest, hparts⟩ := h
  have hdot : ∀ k, (List.replicate k [dot] ++ [] :: rest).foldlM Disk.extend? "." = none := by
    intro k
    induction k with
    | zero => rfl
    | succ k ih => exact ih
  have hrel : p.isAbsolute = false := by
    rw [isAbsolute, bytes_eq_of_split hparts]
    rfl
  rw [Disk.spelling?, hparts, hrel]
  exact hdot (n + 1)

/-- The last part of a path that ends in a separator is empty. -/
lemma Begins.eq_nil_of_getLast? {r : Path} {part : Bytes} (h : Begins p r (parts ++ [part]))
    (hlast : p.bytes.getLast? = some separator) : part = [] := by
  refine Classical.byContradiction fun hpart => ?_
  rw [h.text, List.flatMap_append, ← List.append_assoc, List.flatMap_singleton,
    ← List.singleton_append, ← List.append_assoc, List.getLast?_append,
    List.getLast?_eq_some_getLast hpart, Option.some_or, Option.some.injEq] at hlast
  exact h.parts part (by simp) (hlast ▸ List.getLast_mem hpart)

lemma getLast?_of_extend?_nil (hp : p.isEmpty = false) (h : Disk.extend? p [] = some q) :
    q.bytes.getLast? = some separator := by
  unfold Disk.extend? at h
  split at h
  · cases h
  · cases h
    rw [bytes_join_of_relative _ rfl, List.append_nil, getLast?_leading hp]

theorem spells_of_spelling? (hp : p.isEmpty = false) (h : Disk.spelling? p = some q) :
    Spells p q := by
  obtain ⟨r, rest, hbegins⟩ := exists_begins hp
  have hq : rest.foldlM Disk.extend? r = some q := hbegins.spelling.symm.trans h
  have hgoes := goesOn_of_foldlM hbegins.nonempty hbegins.parts hq
  refine ⟨hgoes.nonempty, ⟨hgoes.absolute.trans hbegins.absolute, ?_⟩, ?_, fun hlast => ?_⟩
  · rw [hgoes.steps, hbegins.steps]
  · rw [hbegins.text]
    exact hgoes.text
  · rcases List.eq_nil_or_concat rest with rfl | ⟨init, part, rfl⟩
    · cases hq
      rwa [hbegins.text, List.flatMap_nil, List.append_nil] at hlast
    · rw [List.concat_eq_append] at hbegins hq
      obtain rfl := hbegins.eq_nil_of_getLast? hlast
      rw [List.foldlM_append] at hq
      obtain ⟨x, hx, hxq⟩ := Option.bind_eq_some_iff.1 hq
      have hinit :=
        goesOn_of_foldlM hbegins.nonempty (fun v hv => hbegins.parts v (by simp [hv])) hx
      have hstep : Disk.extend? x [] = some q := by
        simpa [List.foldlM_cons, List.foldlM_nil] using hxq
      exact getLast?_of_extend?_nil hinit.nonempty hstep

/-- Bytes that can be the name of a file. -/
structure FileName (name : Bytes) : Prop where
  noSeparator : separator ∉ name
  isStep : ignorable name = false
  notParent : name ≠ up

section
variable {name : Bytes}

lemma FileName.ne_nil (h : FileName name) : name ≠ [] := by
  intro e
  have hstep := h.isStep
  simp [ignorable, e] at hstep

lemma FileName.componentOf (h : FileName name) : componentOf name = .normal name := by
  have hdot : name ≠ [dot] := by
    intro e
    have hstep := h.isStep
    simp [ignorable, e] at hstep
  rw [Path.componentOf, if_neg hdot, if_neg h.notParent]

lemma FileName.split (h : FileName name) :
    splitAtSeparator separator (Path.mk name).bytes = [name] :=
  splitAtSeparator_of_not_mem h.noSeparator

lemma FileName.steps (h : FileName name) : steps ⟨name⟩ = [name] := by
  rw [Proofs.steps, h.split, List.filter_cons_of_pos (by simp [h.isStep]), List.filter_nil]

lemma FileName.components (h : FileName name) : (Path.mk name).components = [.normal name] := by
  rw [components_eq, h.split, partComponents_cons h.ne_nil, h.componentOf]
  rfl

lemma FileName.relative (h : FileName name) : (Path.mk name).isAbsolute = false :=
  isAbsolute_mk h.noSeparator

end

/-- The path of a file in a directory, as it is in a listing of the directory. -/
structure Listed (dir : Path) (name : Bytes) (p : Path) : Prop where
  nonempty : p.isEmpty = false
  sameWay : SameWay p (dir.join ⟨name⟩)
  text : p.bytes.Sublist (dir.join ⟨name⟩).bytes
  ends : name <:+ p.bytes
  fileName : p.fileName? = some name

lemma leading_sublist {dir prior : Path} (h : Spells dir prior) (hdir : dir.isEmpty = false) :
    (leading prior).Sublist (leading dir) := by
  by_cases hlast : dir.bytes.getLast? = some separator
  · have hprior : leading prior = prior.bytes := if_pos (.inr (h.separated hlast))
    have hdir : leading dir = dir.bytes := if_pos (.inr hlast)
    rw [hprior, hdir]
    exact h.text
  · have hleading : leading dir = dir.bytes ++ [separator] := by
      rw [leading, if_neg (by simp [hdir, hlast])]
    rw [hleading, leading]
    split
    · exact h.text.trans (List.sublist_append_left _ _)
    · exact h.text.append (List.Sublist.refl _)

/-- A file name behind the spelling of a directory is listed as one behind the directory. -/
lemma exists_listed {dir prior : Path} (hdir : dir.isEmpty = false) (h : Spells dir prior)
    {name : Bytes} (hname : FileName name) :
    ∃ p, Disk.extend? prior name = some p ∧ Listed dir name p := by
  have hrel := hname.relative
  unfold Disk.extend?
  by_cases hcurrent : prior.components = [.current]
  · obtain ⟨hnil, habs⟩ := steps_of_current hcurrent
    rw [if_pos hcurrent, if_neg hname.ne_nil]
    refine ⟨_, rfl, by simpa [isEmpty] using hname.ne_nil, ⟨?_, ?_⟩, ?_,
      List.suffix_rfl, ?_⟩
    · rw [isAbsolute_join hdir hrel, ← h.sameWay.absolute, habs, hrel]
    · rw [steps_join _ hrel, ← h.sameWay.steps, hnil, List.nil_append]
    · rw [bytes_join_of_relative _ hrel]
      exact List.sublist_append_right _ _
    · exact fileName?_eq_some_iff.2 ⟨[], hname.components⟩
  · rw [if_neg hcurrent]
    refine ⟨_, rfl, isEmpty_join h.nonempty hrel, ⟨?_, ?_⟩, ?_, ?_, ?_⟩
    · rw [isAbsolute_join h.nonempty hrel, isAbsolute_join hdir hrel, h.sameWay.absolute]
    · rw [steps_join _ hrel, steps_join _ hrel, h.sameWay.steps]
    · rw [bytes_join_of_relative _ hrel, bytes_join_of_relative _ hrel]
      exact (leading_sublist h hdir).append (List.Sublist.refl _)
    · rw [bytes_join_of_relative _ hrel]
      exact List.suffix_append _ _
    · refine fileName?_eq_some_iff.2 ⟨prior.components, ?_⟩
      rw [components_join_of_relative (by simp [h.nonempty]) (by simp [hrel]), hname.split,
        laterComponents_of_not_ignorable hname.isStep, hname.componentOf]

end WasmBundle.Proofs
