import Mathlib.Tactic.Lemma
import WasmBundle.Disk

/-!
# Following paths on a disk

A walk along the parts of a path arrives at a location by one rule for each kind of part: `Arrives`
has these rules, and `walk_eq_ok_iff` says that the walk succeeds by them and in no other way. What
a walk meets are the entries of the disk on the way, so it arrives at the same location on every
disk that has these entries.
-/

namespace WasmBundle.Proofs
open Disk

/-- The property holds of a tree and of all that is below it. -/
def Everywhere (P : Tree → Prop) (t : Tree) : Prop := ∀ l u, t.at? l = some u → P u

lemma everywhere_iff {P : Tree → Prop} {t : Tree} :
    Everywhere P t ↔ P t ∧ ∀ name u, t.child? name = some u → Everywhere P u := by
  constructor
  · intro h
    refine ⟨h [] t rfl, fun name u hu l v hv => h (name :: l) v ?_⟩
    rw [Tree.at?, hu]
    exact hv
  · rintro ⟨hroot, hbelow⟩ l u hu
    cases l with
    | nil =>
      cases hu
      exact hroot
    | cons name rest =>
      obtain ⟨v, hv, hrest⟩ := Option.bind_eq_some_iff.1 hu
      exact hbelow name v hv rest u hrest

lemma mem_children_of_child? {t u : Tree} {name : Bytes} (h : t.child? name = some u) :
    (name, u) ∈ t.children := by
  obtain ⟨before, after, hchildren, -⟩ := List.lookup_eq_some_iff.1 h
  simp [hchildren]

lemma everywhere_of_children {P : Tree → Prop} {t : Tree} (h : P t)
    (hbelow : ∀ child ∈ t.children, Everywhere P child.2) : Everywhere P t :=
  everywhere_iff.2 ⟨h, fun _ _ hu => hbelow _ (mem_children_of_child? hu)⟩

lemma everywhere_of_childless {P : Tree → Prop} {t : Tree} (h : P t) (hnone : t.children = []) :
    Everywhere P t :=
  everywhere_of_children h fun _ hchild => absurd hchild (by simp [hnone])

/-- No name has a separator in it. -/
def Named : Tree → Prop :=
  Everywhere fun t => ∀ child ∈ t.children, Path.separator ∉ child.1

variable {d d' : Disk} {mayBeNew : Bool} {links : Nat} {w w' : Way} {l m : Location}

/-- The way leads from the root of the disk through what is there. -/
inductive Leads (d : Disk) : Way → Prop
  | root : Leads d []
  | onward {w : Way} {name : Bytes} {t : Tree} (hw : Leads d w)
      (ht : (d.here w).child? name = some t) : Leads d ((name, t) :: w)

@[simp] lemma location_nil : Way.location [] = [] := rfl

@[simp] lemma location_cons (name : Bytes) (t : Tree) (w : Way) :
    Way.location ((name, t) :: w) = w.location ++ [name] := by
  simp [Way.location]

@[simp] lemma here_cons (d : Disk) (name : Bytes) (t : Tree) (w : Way) :
    d.here ((name, t) :: w) = t := rfl

lemma location_tail (w : Way) : Way.location w.tail = w.location.dropLast := by
  cases w with
  | nil => rfl
  | cons step w => rw [List.tail_cons, location_cons, List.dropLast_concat]

lemma Leads.tail (h : Leads d w) : Leads d w.tail := by
  cases h with
  | root => exact .root
  | onward hw _ => exact hw

lemma Leads.at?_location (h : Leads d w) : d.tree.at? w.location = some (d.here w) := by
  induction h with
  | root => rfl
  | onward _ ht ih => simp [Tree.at?_append, ih, Tree.at?, ht]

lemma Leads.lookup? (h : Leads d w) : d.lookup? w.location = some (d.here w).entry := by
  rw [Disk.lookup?, h.at?_location, Option.map_some]

/-- What is below the end of a way. -/
lemma Leads.at?_concat (h : Leads d w) (name : Bytes) :
    d.tree.at? (w.location ++ [name]) = (d.here w).child? name := by
  rw [Tree.at?_append, h.at?_location]
  cases hc : (d.here w).child? name <;> simp [Tree.at?, hc]

lemma Leads.lookup?_concat (h : Leads d w) (name : Bytes) :
    d.lookup? (w.location ++ [name]) = ((d.here w).child? name).map Tree.entry := by
  rw [Disk.lookup?, h.at?_concat]

lemma Leads.wayOn? (h : Leads d w) (hw : d.wayOn? w l = some w') :
    Leads d w' ∧ w'.location = w.location ++ l := by
  induction l generalizing w with
  | nil =>
    cases hw
    exact ⟨h, (List.append_nil _).symm⟩
  | cons name rest ih =>
    obtain ⟨t, ht, hrest⟩ := Option.bind_eq_some_iff.1 hw
    obtain ⟨hlead, hloc⟩ := ih (h.onward ht) hrest
    refine ⟨hlead, ?_⟩
    rw [hloc, location_cons, List.append_assoc, List.singleton_append]

/-- There is a way on to whatever is on the disk. -/
lemma exists_wayOn? (h : Leads d w) {t : Tree} (ht : d.tree.at? (w.location ++ l) = some t) :
    ∃ w', d.wayOn? w l = some w' := by
  induction l generalizing w with
  | nil => exact ⟨w, rfl⟩
  | cons name rest ih =>
    rw [Tree.at?_append, h.at?_location, Option.bind_some, Tree.at?] at ht
    obtain ⟨u, hu, hrest⟩ := Option.bind_eq_some_iff.1 ht
    have hloc : d.tree.at? (Way.location ((name, u) :: w) ++ rest) = some t := by
      rw [Tree.at?_append, (h.onward hu).at?_location]
      exact hrest
    obtain ⟨w', hw'⟩ := ih (h.onward hu) hloc
    exact ⟨w', by rw [Disk.wayOn?, hu]; exact hw'⟩

lemma leads_start {p : Path} (h : d.start p = .ok w) : Leads d w := by
  unfold Disk.start at h
  split at h
  · cases h
    exact .root
  · split at h
    · rename_i hw
      cases h
      exact (Leads.root.wayOn? hw).1
    · cases h

/-- A part of a path that is the name of an entry, and not too long for one. -/
structure NamesEntry (part : Bytes) : Prop where
  isPart : Path.ignorable part = false
  notParent : part ≠ Path.up
  fits : part.length ≤ nameLimit

/-- Parts lead from the end of a way to a location, through a number of links at most. -/
inductive Arrives (d : Disk) (mayBeNew : Bool) : Nat → Way → List Bytes → Location → Prop
  | done (links : Nat) (w : Way) : Arrives d mayBeNew links w [] w.location
  | stay {links : Nat} {w : Way} {part : Bytes} {rest : List Bytes} {l : Location}
      {a : Attributes} (hdir : (d.here w).entry = .directory a)
      (hpart : Path.ignorable part = true) (hrest : Arrives d mayBeNew links w rest l) :
      Arrives d mayBeNew links w (part :: rest) l
  | up {links : Nat} {w : Way} {rest : List Bytes} {l : Location} {a : Attributes}
      (hdir : (d.here w).entry = .directory a) (hrest : Arrives d mayBeNew links w.tail rest l) :
      Arrives d mayBeNew links w (Path.up :: rest) l
  | new {links : Nat} {w : Way} {part : Bytes} {a : Attributes}
      (hdir : (d.here w).entry = .directory a) (hname : NamesEntry part)
      (hnone : (d.here w).child? part = none) (hnew : mayBeNew = true) :
      Arrives d mayBeNew links w [part] (w.location ++ [part])
  | link {links : Nat} {w : Way} {part : Bytes} {rest : List Bytes} {l : Location}
      {a : Attributes} {t : Tree} {target : Path} (hdir : (d.here w).entry = .directory a)
      (hname : NamesEntry part) (hchild : (d.here w).child? part = some t)
      (hlink : t.entry = .link target)
      (hrest : Arrives d mayBeNew links (if target.isAbsolute then [] else w)
        (parts target ++ rest) l) :
      Arrives d mayBeNew (links + 1) w (part :: rest) l
  | enter {links : Nat} {w : Way} {part : Bytes} {rest : List Bytes} {l : Location}
      {a : Attributes} {t : Tree} (hdir : (d.here w).entry = .directory a)
      (hname : NamesEntry part) (hchild : (d.here w).child? part = some t)
      (hplain : ∀ target, t.entry ≠ .link target)
      (hrest : Arrives d mayBeNew links ((part, t) :: w) rest l) :
      Arrives d mayBeNew links w (part :: rest) l

lemma arrives_of_walk {parts : List Bytes} (h : d.walk mayBeNew links w parts = .ok l) :
    Arrives d mayBeNew links w parts l := by
  fun_induction Disk.walk d mayBeNew links w parts with
  | case1 links w =>
    cases h
    exact .done links w
  | case2 links w part rest a hdir hpart ih => exact .stay hdir hpart (ih h)
  | case3 links w rest a hdir hpart ih => exact .up hdir (ih h)
  | case4 => cases h
  | case5 links w part rest a hdir hpart hparent hfits hnone hnew =>
    obtain ⟨hnew, rfl⟩ := hnew
    cases h
    exact .new hdir ⟨by simpa using hpart, hparent, Nat.le_of_not_lt hfits⟩ hnone hnew
  | case6 => cases h
  | case7 => cases h
  | case8 w part rest a hdir hpart hparent hfits t ht target hlink links ih =>
    exact .link hdir ⟨by simpa using hpart, hparent, Nat.le_of_not_lt hfits⟩ ht hlink (ih h)
  | case9 links w part rest a hdir hpart hparent hfits t ht hplain ih =>
    exact .enter hdir ⟨by simpa using hpart, hparent, Nat.le_of_not_lt hfits⟩ ht hplain (ih h)
  | case10 => cases h

lemma walk_of_arrives {parts : List Bytes} (h : Arrives d mayBeNew links w parts l) :
    d.walk mayBeNew links w parts = .ok l := by
  induction h with
  | done links w => rw [Disk.walk]
  | stay hdir hpart _ ih => rw [Disk.walk, hdir]; simp only [hpart, if_true, ih]
  | up hdir _ ih =>
    have hpart : Path.ignorable Path.up = false := by decide
    rw [Disk.walk, hdir]
    simp [hpart, ih]
  | new hdir hname hnone hnew =>
    rw [Disk.walk, hdir]
    simp [hname.isPart, hname.notParent, Nat.not_lt.2 hname.fits, hnone, hnew]
  | link hdir hname hchild hlink _ ih =>
    rw [Disk.walk, hdir]
    simp [hname.isPart, hname.notParent, Nat.not_lt.2 hname.fits, hchild, hlink, ih]
  | @enter links w part rest l a t hdir hname hchild hplain _ ih =>
    rw [Disk.walk, hdir]
    simp only [hname.isPart, hname.notParent, Nat.not_lt.2 hname.fits, hchild]
    cases ht : t.entry with
    | link target => exact absurd ht (hplain target)
    | directory => simpa using ih
    | file => simpa using ih

/-- A walk succeeds by the rules and in no other way. -/
theorem walk_eq_ok_iff {parts : List Bytes} :
    d.walk mayBeNew links w parts = .ok l ↔ Arrives d mayBeNew links w parts l :=
  ⟨arrives_of_walk, walk_of_arrives⟩

/-- The second disk has a file at a location where the first has a file or nothing. Otherwise it has
all that the first has. -/
structure PlacesFile (d d' : Disk) (m : Location) : Prop where
  workingDirectory : d'.workingDirectory = d.workingDirectory
  placed : ∃ n, d'.lookup? m = some (.file n)
  free : ∀ e, d.lookup? m = some e → ∃ n, e = .file n
  kept : ∀ l e, l ≠ m → d.lookup? l = some e → d'.lookup? l = some e

/-- Directories are not where a file is put. -/
lemma PlacesFile.directory (h : PlacesFile d d' m) {a : Attributes}
    (hl : d.lookup? l = some (.directory a)) : d'.lookup? l = some (.directory a) := by
  refine h.kept l _ ?_ hl
  rintro rfl
  obtain ⟨n, hn⟩ := h.free _ hl
  cases hn

/-- Links and directories stay as they are, and files stay files. -/
lemma PlacesFile.entry (h : PlacesFile d d' m) {e : Entry} (hl : d.lookup? l = some e) :
    d'.lookup? l = some e ∨ ∃ n k, e = .file n ∧ d'.lookup? l = some (.file k) := by
  by_cases hlm : l = m
  · subst hlm
    obtain ⟨n, rfl⟩ := h.free e hl
    obtain ⟨k, hk⟩ := h.placed
    exact .inr ⟨n, k, rfl, hk⟩
  · exact .inl (h.kept l e hlm hl)

/-- A way through directories is one on the second disk, too. -/
lemma PlacesFile.here (h : PlacesFile d d' m) (hw : Leads d w) (hw' : Leads d' w')
    (hloc : w'.location = w.location) {a : Attributes} (ha : (d.here w).entry = .directory a) :
    (d'.here w').entry = .directory a := by
  have hd := h.directory (ha ▸ hw.lookup?)
  rw [← hloc, hw'.lookup?] at hd
  exact Option.some.inj hd

/-- What is below the end of a way is there on the second disk, too. -/
lemma PlacesFile.child? (h : PlacesFile d d' m) (hw : Leads d w) (hw' : Leads d' w')
    (hloc : w'.location = w.location) {name : Bytes} {t : Tree}
    (ht : (d.here w).child? name = some t) :
    ∃ t', (d'.here w').child? name = some t' ∧
      (t'.entry = t.entry ∨ ∃ n k, t.entry = .file n ∧ t'.entry = .file k) := by
  have hold : d.lookup? (w.location ++ [name]) = some t.entry := by
    rw [hw.lookup?_concat, ht, Option.map_some]
  have hnew := h.entry hold
  rw [← hloc, hw'.lookup?_concat] at hnew
  rcases hnew with hsame | ⟨n, k, hn, hk⟩
  · obtain ⟨t', ht', he⟩ := Option.map_eq_some_iff.1 hsame
    exact ⟨t', ht', .inl he⟩
  · obtain ⟨t', ht', he⟩ := Option.map_eq_some_iff.1 hk
    exact ⟨t', ht', .inr ⟨n, k, hn, he⟩⟩

/-- A walk goes the same way on the second disk; if it leads to something new, that must be the file
that was put there. -/
theorem arrives_of_placesFile (h : PlacesFile d d' m) {parts : List Bytes}
    (hr : Arrives d mayBeNew links w parts l) (hw : Leads d w) (hw' : Leads d' w')
    (hloc : w'.location = w.location) (hl : mayBeNew = false ∨ l = m) :
    Arrives d' false links w' parts l := by
  -- The two ways hold different trees; what they have in common is the location.
  induction hr generalizing w' with
  | done links w =>
    rw [← hloc]
    exact .done links w'
  | stay hdir hpart _ ih => exact .stay (h.here hw hw' hloc hdir) hpart (ih hw hw' hloc hl)
  | up hdir _ ih =>
    refine .up (h.here hw hw' hloc hdir) (ih hw.tail hw'.tail ?_ hl)
    rw [location_tail, location_tail, hloc]
  | @new links w part a hdir hname hnone hnew =>
    -- What is new on the first disk is the file on the second.
    have hm : w.location ++ [part] = m := hl.resolve_left (by simp [hnew])
    obtain ⟨n, hn⟩ := h.placed
    rw [← hm, ← hloc, hw'.lookup?_concat] at hn
    obtain ⟨t, ht, he⟩ := Option.map_eq_some_iff.1 hn
    refine .enter (h.here hw hw' hloc hdir) hname ht (by simp [he]) ?_
    rw [← hloc, ← location_cons _ t]
    exact .done links _
  | @link links w part rest l a t target hdir hname hchild hlink _ ih =>
    obtain ⟨t', ht', he | ⟨n, k, hn, -⟩⟩ := h.child? hw hw' hloc hchild
    · refine .link (h.here hw hw' hloc hdir) hname ht' (he.trans hlink) ?_
      by_cases habs : target.isAbsolute = true
      · rw [if_pos habs] at ih ⊢
        exact ih .root .root rfl hl
      · rw [if_neg habs] at ih ⊢
        exact ih hw hw' hloc hl
    · cases hlink.symm.trans hn
  | @enter links w part rest l a t hdir hname hchild hplain _ ih =>
    obtain ⟨t', ht', he⟩ := h.child? hw hw' hloc hchild
    refine .enter (h.here hw hw' hloc hdir) hname ht' ?_
      (ih (hw.onward hchild) (hw'.onward ht') (by simp [hloc]) hl)
    rcases he with he | ⟨n, k, -, hk⟩
    · rwa [he]
    · simp [hk]

/-- The following of a path begins at the same place on the second disk. -/
lemma start_of_placesFile (h : PlacesFile d d' m) {p : Path} (hs : d.start p = .ok w) :
    ∃ w', d'.start p = .ok w' ∧ w'.location = w.location := by
  unfold Disk.start at hs ⊢
  by_cases habs : p.isAbsolute = true
  · rw [if_pos habs] at hs ⊢
    cases hs
    exact ⟨[], rfl, rfl⟩
  · rw [if_neg habs] at hs ⊢
    cases hway : d.wayOn? [] d.workingDirectory with
    | none => simp [hway] at hs
    | some v =>
      rw [hway] at hs
      cases hs
      obtain ⟨hlead, hloc⟩ := Leads.root.wayOn? hway
      rw [location_nil, List.nil_append] at hloc
      have hthere : (d'.lookup? d.workingDirectory).isSome = true := by
        rcases h.entry (hloc ▸ hlead.lookup?) with he | ⟨n, k, -, hk⟩
        · rw [he]; rfl
        · rw [hk]; rfl
      rw [Disk.lookup?, Option.isSome_map] at hthere
      obtain ⟨t, ht⟩ := Option.isSome_iff_exists.1 hthere
      obtain ⟨w', hw'⟩ := exists_wayOn? (d := d') .root (l := d.workingDirectory) ht
      refine ⟨w', by rw [h.workingDirectory, hw'], ?_⟩
      rw [(Leads.root.wayOn? hw').2, hloc]
      rfl

lemma walkFrom_of_placesFile (h : PlacesFile d d' m) {p : Path} {parts : List Bytes}
    (hf : d.walkFrom mayBeNew p parts = .ok l) (hl : mayBeNew = false ∨ l = m) :
    d'.walkFrom false p parts = .ok l := by
  unfold Disk.walkFrom at hf ⊢
  cases hs : d.start p with
  | error e => simp [hs] at hf
  | ok w =>
    simp only [hs] at hf
    obtain ⟨w', hs', hloc⟩ := start_of_placesFile h hs
    simp only [hs', walk_eq_ok_iff]
    exact arrives_of_placesFile h (walk_eq_ok_iff.1 hf) (leads_start hs) (leads_start hs') hloc hl

lemma locate_of_placesFile (h : PlacesFile d d' m) {p : Path} (hp : d.locate p = .ok l) :
    d'.locate p = .ok l := by
  unfold Disk.locate at hp ⊢
  cases hfault : fault? p with
  | some e => simp [hfault] at hp
  | none =>
    simp only [hfault] at hp ⊢
    exact walkFrom_of_placesFile h hp (.inl rfl)

lemma namedParts_of_not_marked {p : Path} (h : isMarked p = false) : namedParts p = parts p := by
  have hlen : (parts p).length ≤ (namedParts p).length := by simpa [isMarked] using h
  have hsuffix : (parts p).reverse.dropWhile List.isEmpty <:+ (parts p).reverse :=
    List.dropWhile_suffix _
  have hreverse : (parts p).reverse.length ≤ ((parts p).reverse.dropWhile List.isEmpty).length := by
    simpa only [namedParts, List.length_reverse] using hlen
  rw [namedParts, hsuffix.eq_of_length (Nat.le_antisymm hsuffix.length_le hreverse),
    List.reverse_reverse]

/-- A path leads to the file that is put where it may be new. -/
lemma locate_of_target (h : PlacesFile d d' m) {p : Path} (hp : d.target p = .ok m)
    (hm : isMarked p = false) : d'.locate p = .ok m := by
  unfold Disk.target at hp
  unfold Disk.locate
  cases hfault : fault? p with
  | some e => simp [hfault] at hp
  | none =>
    simp only [hfault, namedParts_of_not_marked hm] at hp ⊢
    exact walkFrom_of_placesFile h hp (.inr rfl)

lemma node?_eq_file_iff {n : Nat} {f : DiskFile} :
    d.node? l = some (.file n f) ↔ d.lookup? l = some (.file n) ∧ d.files[n]? = some f := by
  unfold Disk.node?
  cases hl : d.lookup? l with
  | none => simp
  | some e =>
    cases e with
    | directory a => simp
    | link target => simp
    | file k =>
      constructor
      · intro h
        obtain ⟨g, hg, hgf⟩ := Option.map_eq_some_iff.1 h
        cases hgf
        exact ⟨rfl, hg⟩
      · rintro ⟨hk, hf⟩
        cases hk
        simp [hf]

lemma find_eq_file_iff {p : Path} {n : Nat} {f : DiskFile} :
    d.find p = .ok (.file n f) ↔ ∃ l, d.locate p = .ok l ∧ d.node? l = some (.file n f) := by
  unfold Disk.find
  cases hp : d.locate p with
  | error e => simp
  | ok l =>
    cases hn : d.node? l <;> simp [hn]

end WasmBundle.Proofs
