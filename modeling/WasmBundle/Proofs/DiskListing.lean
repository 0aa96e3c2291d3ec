import WasmBundle.Proofs.DiskSteps
import WasmBundle.Proofs.ListingSpelling
import WasmBundle.Proofs.StoreViews

/-!
# Listings of a disk

A directory that is not hidden lists exactly the artifacts that paths into it lead to: the file name
of a path is found in the listing when the path leads to a file, and what is found leads to the same
file. The names on the disk must have no separators in them, and the path must not be too long.
-/

namespace WasmBundle.Proofs
open WasmBundle.Path Disk

variable {d : Disk} {ext : String} {dir p q : Path} {l : Location} {name : String}

/-- The paths lead to the same entry, which is a regular file. -/
def SameFile (d : Disk) (p q : Path) : Prop :=
  ∃ l n f, d.locate p = .ok l ∧ d.locate q = .ok l ∧ d.node? l = some (.file n f) ∧
    f.kind = .regular

lemma isFile_iff : d.isFile p = true ↔
    ∃ l n f, d.locate p = .ok l ∧ d.node? l = some (.file n f) ∧ f.kind = .regular := by
  unfold Disk.isFile
  constructor
  · intro h
    split at h
    · rename_i n f hf
      obtain ⟨l, hl, hn⟩ := find_eq_file_iff.1 hf
      exact ⟨l, n, f, hl, hn, by simpa using h⟩
    · cases h
  · rintro ⟨l, n, f, hl, hn, hf⟩
    rw [find_eq_file_iff.2 ⟨l, hl, hn⟩]
    simpa using hf

lemma SameFile.isFile (h : SameFile d p q) : d.isFile p = true := by
  obtain ⟨l, n, f, hl, -, hnode, hf⟩ := h
  exact isFile_iff.2 ⟨l, n, f, hl, hnode, hf⟩

lemma mem_namesIn_iff {name : Bytes} : name ∈ d.namesIn l ↔
    ∃ t u, d.tree.at? l = some t ∧ (name, u) ∈ t.children := by
  unfold Disk.namesIn
  cases h : d.tree.at? l with
  | none => simp
  | some t => simp [List.mem_eraseDups]

/-- A hidden directory has an empty listing, whatever it holds. -/
theorem artifacts_of_hidden (htext : dir.bytes.isText = true) (h : Hidden dir) :
    d.artifacts dir ext = [] := by
  simp only [Disk.artifacts, ofText_text_iff.2 htext, spelling?_of_hidden h]
  cases d.locate dir <;> rfl

lemma utf8_ending (ext : String) : Bytes.utf8 ("." ++ ext) = dot :: Bytes.utf8 ext :=
  utf8_append "." ext

lemma utf8_isSuffix {s t : String} (h : s.toList <:+ t.toList) : Bytes.utf8 s <:+ Bytes.utf8 t := by
  obtain ⟨front, hfront⟩ := h
  refine ⟨Bytes.utf8 (String.ofList front), ?_⟩
  rw [← utf8_append, ← String.toList_inj.1 ((String.toList_append).trans
    ((congrArg (· ++ s.toList) String.toList_ofList).trans hfront))]

lemma endsIn_iff {name : Bytes} : Disk.endsIn ext name = true ↔
    ∃ leaf, name = Bytes.utf8 leaf ∧ ("." ++ ext).toList <:+ leaf.toList := by
  have hending : ("." ++ ext).toList = '.' :: ext.toList := by simp
  simp only [Disk.endsIn, Option.any_eq_true, Bytes.text?_eq_some_iff, List.isSuffixOf_iff_suffix,
    hending]

/-- A part that ends in a dot and a plain extension is a step, and leads to no parent. -/
lemma step_of_suffix (hext : PlainExtension ext) {s : Bytes}
    (h : Bytes.utf8 ("." ++ ext) <:+ s) : ignorable s = false ∧ s ≠ up := by
  obtain ⟨front, rfl⟩ := h
  have hne : Bytes.utf8 ext ≠ [] := fun h => hext.nonempty (utf8_eq_nil_iff.1 h)
  have hdot : (Bytes.utf8 ext).head? ≠ some dot := fun h =>
    hext.not_dot ((head?_utf8_iff (d := '.') (by decide)).1 h)
  rw [utf8_ending]
  refine ⟨by simp [ignorable, List.append_eq_cons_iff, hne], fun hparent => ?_⟩
  have hcomponent := componentOf_append (s := front) hne hdot
  rw [hparent] at hcomponent
  cases hcomponent

lemma fileName_of_suffix (hext : PlainExtension ext) (hsep : separator ∉ Bytes.utf8 name)
    (h : ("." ++ ext).toList <:+ name.toList) : FileName (Bytes.utf8 name) :=
  ⟨hsep, (step_of_suffix hext (utf8_isSuffix h)).1, (step_of_suffix hext (utf8_isSuffix h)).2⟩

lemma endsInStep_of_suffix (hext : PlainExtension ext) (h : Bytes.utf8 ("." ++ ext) <:+ p.bytes) :
    EndsInStep (parts p) := by
  obtain ⟨text, htext⟩ := h
  have hsep : separator ∉ Bytes.utf8 ("." ++ ext) := by
    refine fun hmem => hext.no_separator ?_
    simpa using (mem_utf8_iff (d := '/') (by decide)).1 hmem
  obtain ⟨front, last, -, hsplit⟩ := splitAtSeparator_append_of_not_mem text hsep
  refine ⟨last ++ Bytes.utf8 ("." ++ ext), ?_, (step_of_suffix hext (List.suffix_append _ _)).1⟩
  rw [parts, ← htext, hsplit, List.getLast?_concat]

lemma isDirectory_iff (h : d.locate p = .ok l) :
    d.isDirectory p = true ↔ d.isDirectoryAt l = true := by
  unfold Disk.isDirectory Disk.find Disk.isDirectoryAt
  rw [h]
  cases hn : d.node? l with
  | none => simp [hn]
  | some n => cases n <;> simp [hn]

/-- What the listing of a directory holds is a file in it, under the spelling of the directory. -/
lemma mem_artifacts_disk {prior : Path} (htext : dir.bytes.isText = true)
    (hprior : Disk.spelling? dir = some prior) :
    q ∈ d.artifacts dir ext ↔
      ∃ l leaf, d.locate dir = .ok l ∧ d.isDirectoryAt l = true ∧ Bytes.utf8 leaf ∈ d.namesIn l ∧
        ("." ++ ext).toList <:+ leaf.toList ∧ Disk.extend? prior (Bytes.utf8 leaf) = some q ∧
        d.isFile q = true := by
  simp only [Disk.artifacts, ofText_text_iff.2 htext, hprior]
  cases hl : d.locate dir with
  | error e => simp
  | ok l =>
    by_cases hdir : d.isDirectoryAt l = true
    · simp only [isDirectory_iff hl, hdir, and_self, if_true, List.mem_filter, List.mem_filterMap,
        endsIn_iff]
      constructor
      · rintro ⟨⟨name, ⟨hname, leaf, rfl, hends⟩, hextend⟩, hfile⟩
        exact ⟨l, leaf, rfl, hdir, hname, hends, hextend, hfile⟩
      · rintro ⟨m, leaf, hm, -, hname, hends, hextend, hfile⟩
        cases hm
        exact ⟨⟨_, ⟨hname, leaf, rfl, hends⟩, hextend⟩, hfile⟩
    · simp [hdir]

lemma sameWay_join {leaf : Bytes} (hleaf : FileName leaf) (hdir : dir.isEmpty = false)
    (hp : p.components = dir.components ++ [.normal leaf]) : SameWay p (dir.join ⟨leaf⟩) := by
  refine sameWay_of_components (hp.trans ?_)
  rw [components_join_of_relative (by simp [hdir]) (by simp [hleaf.relative]), hleaf.split,
    laterComponents_of_not_ignorable hleaf.isStep, hleaf.componentOf]

/-- A path into a directory, with the text it must have at least. -/
structure Into (dir : Path) (ext leaf : String) (p : Path) : Prop where
  components : p.components = dir.components ++ [.normal (Bytes.utf8 leaf)]
  text : (dir.join leaf).bytes.Sublist p.bytes
  ends : Bytes.utf8 ("." ++ ext) <:+ p.bytes
  fileName : FileName (Bytes.utf8 leaf)
  leafEnds : ("." ++ ext).toList <:+ leaf.toList

lemma Into.isEmpty {leaf : String} (h : Into dir ext leaf p) (hdir : dir.isEmpty = false) :
    p.isEmpty = false := by
  refine Bool.eq_false_iff.2 fun hempty => ?_
  have htext := h.text
  rw [List.isEmpty_iff.1 hempty, List.sublist_nil, ← List.isEmpty_iff] at htext
  cases htext.symm.trans (isEmpty_join hdir h.fileName.relative)

lemma exists_directory {leaf : String} (hext : PlainExtension ext) (hdir : dir.isEmpty = false)
    (hp : Into dir ext leaf p) (hl : d.locate p = .ok l) :
    ∃ m, d.locate dir = .ok m ∧ d.isDirectoryAt m = true ∧
      Bytes.utf8 leaf ∈ d.namesIn m := by
  obtain ⟨hfault, w, hw, harrives⟩ := locate_eq_ok_iff.1 hl
  have hway := sameWay_join hp.fileName hdir hp.components
  have hsteps : Alike (parts p) (parts dir ++ [Bytes.utf8 leaf]) := by
    refine .inr ⟨?_, endsInStep_of_suffix hext hp.ends, Bytes.utf8 leaf, List.getLast?_concat,
      hp.fileName.isStep⟩
    rw [List.filter_append, List.filter_cons_of_pos (by simp [hp.fileName.isStep]), List.filter_nil]
    exact (hway.steps.trans (steps_join _ hp.fileName.relative)).trans
      (by rw [hp.fileName.steps]; rfl)
  obtain ⟨w', a, t, hdirectory, hleads, ha, ht⟩ := exists_way_of_concat hp.fileName.isStep
    hp.fileName.notParent (arrives_of_alike hsteps harrives) (leads_start hw)
  have htext : dir.bytes.Sublist p.bytes :=
    (sublist_join_left dir hp.fileName.relative).trans hp.text
  have habs : p.isAbsolute = dir.isAbsolute :=
    hway.absolute.trans (isAbsolute_join hdir hp.fileName.relative)
  refine ⟨w'.location, locate_eq_ok_iff.2 ⟨fault?_of_sublist htext hdir hfault, w,
    (start_congr habs).symm.trans hw, hdirectory⟩, ?_, ?_⟩
  · simp [Disk.isDirectoryAt, Disk.node?, hleads.lookup?, ha]
  · exact mem_namesIn_iff.2 ⟨_, t, hleads.at?_location, mem_children_of_child? ht⟩

/-- A path with the same steps can be followed if it is not too long. -/
lemma fault?_of_steps (h : steps p = steps q) (hp : p.isEmpty = false)
    (hfits : p.bytes.length ≤ pathLimit) (hq : fault? q = none) : fault? p = none := by
  refine fault?_eq_none_iff.2 ⟨fun hnul => ?_, hfits, hp⟩
  obtain ⟨s, hs, hc⟩ := mem_step (by decide) (by decide) hnul
  exact (fault?_eq_none_iff.1 hq).1 (mem_of_mem_step (h ▸ hs) hc)

/-- The names on a disk are texts. -/
def TextEntries : Tree → Prop := Everywhere fun t => ∀ child ∈ t.children, child.1.isText = true

/-- Where the names are texts, so is all that leads from name to name. -/
lemma isText_of_arrives (hd : TextEntries d.tree) {links : Nat} {w : Way} {l : Location}
    {parts : List Bytes} (h : Arrives d false links w parts l) (hw : Leads d w) :
    ∀ part ∈ parts, part.isText = true := by
  have hchild : ∀ {w : Way} {part : Bytes} {t : Tree}, Leads d w →
      (d.here w).child? part = some t → part.isText = true := fun hw ht =>
    hd _ _ hw.at?_location _ (mem_children_of_child? ht)
  induction h with
  | done => exact fun _ h => nomatch h
  | @stay _ _ part _ _ _ _ hpart _ ih =>
    refine List.forall_mem_cons.2 ⟨?_, ih hw⟩
    have hpart' : part = [] ∨ part = [dot] := by simpa [ignorable] using hpart
    rcases hpart' with rfl | rfl
    · exact Bytes.isText_utf8 ""
    · exact Bytes.isText_utf8 "."
  | up _ _ ih => exact List.forall_mem_cons.2 ⟨Bytes.isText_utf8 "..", ih hw.tail⟩
  | new _ _ _ hnew => cases hnew
  | @link _ w _ _ _ _ _ target _ _ ht _ _ ih =>
    have hway : Leads d (if target.isAbsolute then [] else w) := by
      split
      · exact .root
      · exact hw
    exact List.forall_mem_cons.2 ⟨hchild hw ht,
      fun part hpart => ih hway part (List.mem_append_right _ hpart)⟩
  | enter _ _ ht _ _ ih => exact List.forall_mem_cons.2 ⟨hchild hw ht, ih (hw.onward ht)⟩

lemma isText_of_locate (hd : TextEntries d.tree) (h : d.locate p = .ok l) :
    p.bytes.isText = true := by
  obtain ⟨-, w, hw, harrives⟩ := locate_eq_ok_iff.1 h
  rw [← joinWithSeparator_splitAtSeparator separator p.bytes]
  exact isText_joinWithSeparator (isText_of_arrives hd harrives (leads_start hw))

/-- Where the names are texts, a directory that is none is not there, nor is anything in it. -/
lemma absent_of_not_text {leaf : String} (hd : TextEntries d.tree) (hext : PlainExtension ext)
    (hdir : dir.isEmpty = false) (htext : ¬dir.bytes.isText = true) (hp : Into dir ext leaf p) :
    d.artifacts dir ext = [] ∧ d.isFile p = false := by
  have habsent : ∀ l, d.locate dir ≠ .ok l := fun l hl => htext (isText_of_locate hd hl)
  constructor
  · have hnone : ¬d.isDirectory dir = true := fun h => by
      unfold Disk.isDirectory Disk.find at h
      cases hl : d.locate dir with
      | error e => simp [hl] at h
      | ok l => exact habsent l hl
    unfold Disk.artifacts
    dsimp only
    split
    · rw [if_neg fun h => hnone h.1]
    · rfl
  · refine Bool.eq_false_iff.2 fun hfile => ?_
    obtain ⟨l, n, f, hl, -⟩ := isFile_iff.1 hfile
    obtain ⟨m, hm, -⟩ := exists_directory hext hdir hp hl
    exact habsent m hm

/-- The listing of a directory that is not hidden has the file name of a path into the directory
exactly if the path leads to a file, and then under a path to the same file. -/
theorem lookup?_artifacts_disk {leaf : String} (hd : Named d.tree) (hext : PlainExtension ext)
    (hdir : dir.isEmpty = false) (htexts : TextEntries d.tree ∨ dir.bytes.isText = true)
    (hvisible : ¬Hidden dir) (hp : Into dir ext leaf p) (hfits : p.bytes.length ≤ pathLimit) :
    (∃ q, Resolver.lookup? (d.artifacts dir ext) leaf = some q ∧ SameFile d p q) ∨
      Resolver.lookup? (d.artifacts dir ext) leaf = none ∧ d.isFile p = false := by
  by_cases htext : dir.bytes.isText = true
  case neg =>
    obtain ⟨hlisting, hfile⟩ :=
      absent_of_not_text (htexts.resolve_right htext) hext hdir htext hp
    exact .inr ⟨by rw [hlisting]; rfl, hfile⟩
  obtain ⟨prior, hprior⟩ := exists_spelling hdir hvisible
  have hspells := spells_of_spelling? hdir hprior
  have hway := sameWay_join hp.fileName hdir hp.components
  have hends := endsInStep_of_suffix hext hp.ends
  have halike : ∀ {q}, Listed dir (Bytes.utf8 leaf) q →
      SameWay q p ∧ EndsInStep (parts q) := fun h =>
    ⟨h.sameWay.trans hway.symm,
      endsInStep_of_suffix hext ((utf8_isSuffix hp.leafEnds).trans h.ends)⟩
  cases hfound : Resolver.lookup? (d.artifacts dir ext) leaf with
  | some q =>
    refine .inl ⟨q, rfl, ?_⟩
    have hleaf : q.fileText? = some leaf := by simpa using List.find?_some hfound
    have hmem : q ∈ d.artifacts dir ext := by simpa using List.mem_of_find?_eq_some hfound
    obtain ⟨m, name, -, -, hname, hsuffix, hextend, hfile⟩ :=
      (mem_artifacts_disk htext hprior).1 hmem
    obtain ⟨t, u, ht, hchild⟩ := mem_namesIn_iff.1 hname
    obtain ⟨q', hq', hlisted⟩ := exists_listed hdir hspells
      (fileName_of_suffix hext (hd m t ht _ hchild) hsuffix)
    cases hextend.symm.trans hq'
    rw [fileText?, hlisted.fileName, Option.map_some, shown_utf8, Option.some.injEq] at hleaf
    subst hleaf
    obtain ⟨hsame, hstep⟩ := halike hlisted
    obtain ⟨l, n, f, hl, hnode, hregular⟩ := isFile_iff.1 hfile
    -- The listed path has the steps of `p`, which can be the longer text.
    have hnonempty : p.isEmpty = false := hp.isEmpty hdir
    have hfault := fault?_of_steps hsame.symm.steps hnonempty hfits (locate_eq_ok_iff.1 hl).1
    exact ⟨l, n, f, locate_of_sameWay hsame hstep hends hfault hl, hl, hnode, hregular⟩
  | none =>
    refine .inr ⟨rfl, Bool.eq_false_iff.2 fun hfile => ?_⟩
    obtain ⟨l, n, f, hl, hnode, hregular⟩ := isFile_iff.1 hfile
    obtain ⟨m, hm, hdirectory, hname⟩ := exists_directory hext hdir hp hl
    obtain ⟨q, hq, hlisted⟩ := exists_listed hdir hspells hp.fileName
    obtain ⟨hsame, hstep⟩ := halike hlisted
    have hfault := fault?_of_sublist (hlisted.text.trans hp.text) hlisted.nonempty
      (locate_eq_ok_iff.1 hl).1
    have hqfile : d.isFile q = true :=
      isFile_iff.2 ⟨l, n, f, locate_of_sameWay hsame.symm hends hstep hfault hl, hnode, hregular⟩
    have hmem : q ∈ d.artifacts dir ext :=
      (mem_artifacts_disk htext hprior).2 ⟨m, leaf, hm, hdirectory, hname, hp.leafEnds, hq, hqfile⟩
    have hnone := List.find?_eq_none.1 hfound q (List.mem_reverse.2 hmem)
    exact hnone (by simp [fileText?, hlisted.fileName])

end WasmBundle.Proofs
