import WasmBundle.Path.Ancestors
import WasmBundle.Proofs.DiskPaths

/-!
# Writing files

Writing puts bytes into the file that a path leads to, or into a new one. Either way the disk keeps
everything else, so the path leads to what was written, and every other path leads to what it led
to before: `find_of_write` and `find_of_write_other`.
-/

namespace WasmBundle.Proofs
open Disk

variable {d d' : Disk} {mayBeNew : Bool} {links : Nat} {w w' : Way} {l m : Location}

lemma lookup_filter_ne {name other : Bytes} (h : other ≠ name) (l : List (Bytes × Tree)) :
    (l.filter (·.1 != name)).lookup other = l.lookup other := by
  induction l with
  | nil => rfl
  | cons c rest ih =>
    obtain ⟨found, u⟩ := c
    by_cases hc : found = name
    · have hne : (other == found) = false := by simpa [hc] using h
      rw [List.filter_cons_of_neg (by simp [hc]), ih, List.lookup_cons, hne]
    · rw [List.filter_cons_of_pos (by simpa using hc), List.lookup_cons, List.lookup_cons, ih]

lemma child?_withChild {t : Tree} {a : Attributes} (ha : t.entry = .directory a)
    (name other : Bytes) (u : Tree) :
    (t.withChild name (some u)).child? other = if other = name then some u else t.child? other := by
  cases t with
  | file => cases ha
  | link => cases ha
  | directory b children =>
    have hchildren : (Tree.withChild (.directory b children) name (some u)).children =
        (name, u) :: children.filter (·.1 != name) := rfl
    by_cases h : other = name
    · rw [if_pos h, Tree.child?, hchildren, h, List.lookup_cons_self]
    · have hne : (other == name) = false := by simpa using h
      rw [if_neg h, Tree.child?, hchildren, List.lookup_cons, hne, lookup_filter_ne h]
      rfl

/-- What is there on the way to a location is a directory. -/
def Reachable (t : Tree) (l : Location) : Prop :=
  ∀ front name rest u, l = front ++ name :: rest → t.at? front = some u →
    ∃ a, u.entry = .directory a

/-- What is put below directories is there. -/
lemma at?_put (new : Tree) {t : Tree} (h : Reachable t l) :
    (Tree.put new l t).at? l = some new := by
  induction l generalizing t with
  | nil => rfl
  | cons name rest ih =>
    obtain ⟨a, ha⟩ := h [] name rest t rfl rfl
    rw [Tree.put, Tree.at?, child?_withChild ha, if_pos rfl, Option.bind_some]
    refine ih fun front name' rest' u hl hu => ?_
    cases hc : t.child? name with
    | none =>
      rw [hc, Option.getD_none] at hu
      cases front with
      | nil =>
        cases hu
        exact ⟨_, rfl⟩
      | cons => cases hu
    | some v =>
      rw [hc, Option.getD_some] at hu
      refine h (name :: front) name' rest' u (by rw [hl, List.cons_append]) ?_
      rw [Tree.at?, hc]
      exact hu

/-- What is not below a location stays when something is put there. -/
lemma entry_put {new t u : Tree} (h : ¬l <+: m) (hu : t.at? m = some u) :
    ((Tree.put new l t).at? m).map Tree.entry = some u.entry := by
  induction l generalizing t m with
  | nil => exact absurd List.nil_prefix h
  | cons name rest ih =>
    cases m with
    | nil =>
      cases hu
      rw [Tree.put, Tree.at?, Option.map_some, Tree.entry_withChild]
    | cons other m =>
      obtain ⟨v, hv, hrest⟩ := Option.bind_eq_some_iff.1 hu
      obtain ⟨a, ha⟩ := Tree.directory_of_child? hv
      rw [Tree.put, Tree.at?, child?_withChild ha]
      split
      · rename_i hname
        rw [← hname, hv]
        refine ih (fun hp => h ?_) hrest
        rw [hname]
        exact List.cons_prefix_cons.2 ⟨rfl, hp⟩
      · rw [hv, Option.bind_some, hrest]
        rfl

lemma parts_ne_nil (p : Path) : Disk.parts p ≠ [] := splitAtSeparator_ne_nil _ _

lemma Leads.directory_above (hw : Leads d w) {front : Location} {name : Bytes} {rest : Location}
    (hl : w.location = front ++ name :: rest) :
    ∃ a, d.lookup? front = some (.directory a) := by
  obtain ⟨v, a, hv, ha⟩ := Tree.directory_above (hl ▸ hw.at?_location)
  exact ⟨a, by rw [Disk.lookup?, hv, Option.map_some, ha]⟩

/-- Directories lead to where a walk arrives, and there is no link. -/
lemma end_of_arrives {parts : List Bytes}
    (hr : Arrives d mayBeNew links w parts l) (hw : Leads d w)
    (hparts : parts = [] → ∀ target, (d.here w).entry ≠ .link target) :
    (∀ target, d.lookup? l ≠ some (.link target)) ∧
      ∀ front name rest, l = front ++ name :: rest →
        ∃ a, d.lookup? front = some (.directory a) := by
  have hnolink : ∀ {w : Way} {a : Attributes}, (d.here w).entry = .directory a →
      ∀ target, (d.here w).entry ≠ .link target := by
    intro w a ha target
    simp [ha]
  induction hr with
  | done links w =>
    refine ⟨fun target => ?_, fun front name rest hl => hw.directory_above hl⟩
    rw [hw.lookup?]
    exact fun h => hparts rfl target (Option.some.inj h)
  | stay hdir _ _ ih => exact ih hw fun _ => hnolink hdir
  | @up links w rest l a hdir _ ih =>
    -- Nothing is below a link, so what is above a place is none.
    refine ih hw.tail fun _ => ?_
    cases hw with
    | root => exact hnolink hdir
    | @onward w name t hw ht =>
      obtain ⟨b, hb⟩ := (hw.onward ht).directory_above (location_cons name t w)
      rw [hw.lookup?] at hb
      exact hnolink (Option.some.inj hb)
  | @new links w part a hdir _ hnone _ =>
    refine ⟨fun target => by simp [hw.lookup?_concat, hnone], fun front name rest hl => ?_⟩
    rcases List.eq_nil_or_concat rest with rfl | ⟨r, x, rfl⟩
    · obtain ⟨hfront, -⟩ := List.append_inj' hl rfl
      exact ⟨a, by rw [← hfront, hw.lookup?, hdir]⟩
    · rw [List.concat_eq_append, ← List.cons_append, ← List.append_assoc] at hl
      exact hw.directory_above (List.append_inj' hl rfl).1
  | @link links w part rest l a t target hdir _ _ _ _ ih =>
    have hnonempty : Disk.parts target ++ rest ≠ [] :=
      List.append_ne_nil_of_left_ne_nil (parts_ne_nil _) rest
    refine ih ?_ fun hnil => absurd hnil hnonempty
    split
    · exact .root
    · exact hw
  | enter _ _ hchild hplain _ ih => exact ih (hw.onward hchild) fun _ => hplain

/-- Where a file may be put: there is a file or nothing, below directories. -/
structure Open (d : Disk) (m : Location) : Prop where
  free : ∀ e, d.lookup? m = some e → ∃ n, e = .file n
  below : ∀ front name rest, m = front ++ name :: rest → ∃ a, d.lookup? front = some (.directory a)

lemma open_of_target {p : Path} (hp : d.target p = .ok m)
    (hm : isMarked p = false) (hdir : d.node? m ≠ some .directory) : Open d m := by
  have hend : (∀ target, d.lookup? m ≠ some (.link target)) ∧ ∀ front name rest,
      m = front ++ name :: rest → ∃ a, d.lookup? front = some (.directory a) := by
    unfold Disk.target Disk.walkFrom at hp
    cases hfault : fault? p with
    | some e => simp [hfault] at hp
    | none =>
      cases hs : d.start p with
      | error e => simp [hfault, hs] at hp
      | ok w =>
        simp only [hfault, hs, namedParts_of_not_marked hm, walk_eq_ok_iff] at hp
        exact end_of_arrives hp (leads_start hs) fun hnil => absurd hnil (parts_ne_nil p)
  refine ⟨fun e he => ?_, hend.2⟩
  cases e with
  | directory a => exact absurd (by simp [Disk.node?, he]) hdir
  | file n => exact ⟨n, rfl⟩
  | link target => exact absurd he (hend.1 target)

lemma Open.reachable (h : Open d m) : Reachable d.tree m := by
  intro front name rest u hm hu
  obtain ⟨a, ha⟩ := h.below front name rest hm
  rw [Disk.lookup?, hu] at ha
  exact ⟨a, Option.some.inj ha⟩

lemma Open.not_prefix (h : Open d m) {t : Tree} (hl : d.tree.at? l = some t)
    (hne : l ≠ m) : ¬m <+: l := by
  rintro ⟨rest, rfl⟩
  cases rest with
  | nil => exact hne (List.append_nil m)
  | cons name rest =>
    obtain ⟨v, a, hv, ha⟩ := Tree.directory_above hl
    obtain ⟨n, hn⟩ := h.free v.entry (by rw [Disk.lookup?, hv, Option.map_some])
    cases ha.symm.trans hn

/-- The disk after a write: the file at a location has received the bytes, and if there was none it
is new and last. -/
inductive Wrote (d : Disk) (m : Location) (bytes : Bytes) : Disk → Prop
  | old {n : Nat} {f : DiskFile} (hn : d.node? m = some (.file n f))
      (htakes : f.kind = .full → bytes = []) : Wrote d m bytes (d.put n bytes)
  | new {mode : Nat} (hn : d.node? m = none) :
      Wrote d m bytes ((d.create mode m).put d.files.length bytes)

lemma exists_wrote {p : Path} {bytes : Bytes} {mode : Nat} (h : d.write p bytes mode = .ok d') :
    ∃ m, d.target p = .ok m ∧ isMarked p = false ∧ d.node? m ≠ some .directory ∧
      Wrote d m bytes d' := by
  unfold Disk.write at h
  cases hp : d.target p with
  | error e =>
    rw [hp] at h
    cases h
  | ok m =>
    rw [hp] at h
    change (if isMarked p then _ else d.writeAt m bytes mode) = .ok d' at h
    split at h
    · cases h
    · rename_i hm
      refine ⟨m, rfl, by simpa using hm, ?_⟩
      unfold Disk.writeAt at h
      cases hn : d.node? m with
      | none =>
        simp only [hn] at h
        cases h
        exact ⟨by simp, .new hn⟩
      | some node =>
        cases node with
        | directory => simp [hn] at h
        | file n f =>
          simp only [hn] at h
          split at h
          · cases h
          · rename_i hfull
            cases h
            exact ⟨by simp, .old hn fun hk => Classical.not_not.1 fun hb => hfull ⟨hk, hb⟩⟩

variable {bytes : Bytes}

lemma Wrote.placesFile (h : Wrote d m bytes d') (hopen : Open d m) : PlacesFile d d' m := by
  cases h with
  | @old n f hn _ =>
    exact ⟨rfl, ⟨n, (node?_eq_file_iff.1 hn).1⟩, hopen.free, fun l e _ hl => hl⟩
  | new hn =>
    refine ⟨rfl, ⟨d.files.length, ?_⟩, hopen.free, fun l e hne hl => ?_⟩
    · change ((Tree.put _ m d.tree).at? m).map Tree.entry = _
      rw [at?_put _ hopen.reachable]
      rfl
    · obtain ⟨t, ht, rfl⟩ := Option.map_eq_some_iff.1 hl
      exact entry_put (hopen.not_prefix ht hne) ht

/-- The file at the location has received the bytes. -/
lemma Wrote.node? (h : Wrote d m bytes d') (hopen : Open d m) (hplaced : PlacesFile d d' m) :
    ∃ n f, d'.node? m = some (.file n (f.receive d.clock bytes)) ∧
      (f.kind = .regular ∨ d.node? m = some (.file n f)) := by
  cases h with
  | @old n f hn _ =>
    obtain ⟨hl, hf⟩ := node?_eq_file_iff.1 hn
    refine ⟨n, f, node?_eq_file_iff.2 ⟨hl, ?_⟩, .inr hn⟩
    simp [Disk.put, Disk.editFile, hf]
  | @new mode hn =>
    obtain ⟨n, hl⟩ := hplaced.placed
    have hlast : n = d.files.length := by
      change ((Tree.put _ m d.tree).at? m).map Tree.entry = _ at hl
      rw [at?_put _ hopen.reachable] at hl
      cases hl
      rfl
    subst hlast
    refine ⟨d.files.length, { attributes := { mode := mode, time := d.clock } },
      node?_eq_file_iff.2 ⟨hl, ?_⟩, .inl rfl⟩
    simp [Disk.put, Disk.editFile, Disk.create, Disk.addFile]
    rfl

lemma Wrote.node?_other (h : Wrote d m bytes d') (hplaced : PlacesFile d d' m) {n : Nat}
    {f : DiskFile} (hl : d.node? l = some (.file n f)) :
    d'.node? l = some (.file n f) ∨ d.node? m = some (.file n f) := by
  obtain ⟨hentry, hf⟩ := node?_eq_file_iff.1 hl
  cases h with
  | @old k g hk _ =>
    by_cases hkn : k = n
    · subst hkn
      obtain ⟨hm, hg⟩ := node?_eq_file_iff.1 hk
      cases hf.symm.trans hg
      exact .inr hk
    · refine .inl (node?_eq_file_iff.2 ⟨hentry, ?_⟩)
      simp [Disk.put, Disk.editFile, hkn, hf]
  | @new mode hn =>
    have hlm : l ≠ m := by
      rintro rfl
      cases hn.symm.trans hl
    have hlt : n < d.files.length := (List.getElem?_eq_some_iff.1 hf).1
    refine .inl (node?_eq_file_iff.2 ⟨hplaced.kept l _ hlm hentry, ?_⟩)
    simp only [Disk.put, Disk.editFile, Disk.create, Disk.addFile, List.getElem?_modify]
    rw [List.getElem?_append_left hlt, hf]
    simp [Nat.ne_of_gt hlt]

lemma placesFile_self {n : Nat} {f : DiskFile} (h : d.node? m = some (.file n f)) :
    PlacesFile d d m := by
  have hl := (node?_eq_file_iff.1 h).1
  refine ⟨rfl, ⟨n, hl⟩, fun e he => ⟨n, ?_⟩, fun _ _ _ hl => hl⟩
  exact Option.some.inj (he.symm.trans hl)

/-- What a path leads to after bytes were written there: a file that holds them and nothing else, or
the device that was there before, which has received them all at once. -/
inductive Took (d d' : Disk) (p : Path) (bytes : Bytes) : Prop
  | file (h : d'.read p = .ok bytes)
  | device {n : Nat} {f : DiskFile} (hbefore : d.find p = .ok (.file n f))
      (hkind : f.kind ≠ .regular) (hafter : d'.find p = .ok (.file n (f.receive d.clock bytes)))

lemma content_receive {f : DiskFile} (h : f.kind = .regular) (time : Int) (bytes : Bytes) :
    (f.receive time bytes).content = bytes := by
  simp [DiskFile.receive, DiskFile.content, h]

lemma read_of_find {p : Path} {n : Nat} {f : DiskFile} (h : d.find p = .ok (.file n f)) :
    d.read p = .ok f.content := by
  simp only [Disk.read, h]

variable {p q : Path} {mode : Nat}

/-- A path leads to what was written there. -/
theorem took_of_write (h : d.write p bytes mode = .ok d') : Took d d' p bytes := by
  obtain ⟨m, hp, hm, hdir, hwrote⟩ := exists_wrote h
  have hopen := open_of_target hp hm hdir
  have hplaced := hwrote.placesFile hopen
  obtain ⟨n, f, hnode, hf⟩ := hwrote.node? hopen hplaced
  have hfind : d'.find p = .ok (.file n (f.receive d.clock bytes)) :=
    find_eq_file_iff.2 ⟨m, locate_of_target hplaced hp hm, hnode⟩
  by_cases hkind : f.kind = .regular
  · refine .file ?_
    rw [read_of_find hfind, content_receive hkind]
  · have hold : d.node? m = some (.file n f) := hf.resolve_left hkind
    have hbefore : d.locate p = .ok m := locate_of_target (placesFile_self hold) hp hm
    exact .device (find_eq_file_iff.2 ⟨m, hbefore, hold⟩) hkind hfind

/-- Every path to another file leads to that file as it was. -/
theorem find_of_write_other (h : d.write q bytes mode = .ok d') {n : Nat} {f : DiskFile}
    (hp : d.find p = .ok (.file n f)) :
    d'.find p = .ok (.file n f) ∨ d.find q = .ok (.file n f) := by
  obtain ⟨m, hq, hm, hdir, hwrote⟩ := exists_wrote h
  have hopen := open_of_target hq hm hdir
  have hplaced := hwrote.placesFile hopen
  obtain ⟨l, hl, hnode⟩ := find_eq_file_iff.1 hp
  rcases hwrote.node?_other hplaced hnode with hkept | hsame
  · exact .inl (find_eq_file_iff.2 ⟨l, locate_of_placesFile hplaced hl, hkept⟩)
  · have hbefore : d.locate q = .ok m := locate_of_target (placesFile_self hsame) hq hm
    exact .inr (find_eq_file_iff.2 ⟨m, hbefore, hsame⟩)

end WasmBundle.Proofs
