import WasmBundle.Config
import WasmBundle.Proofs.DiskListing

/-!
# Where configurations are found

The search for a configuration goes up by the text of the directory it starts from, one component at
a time, and ends after as many steps as there are components at most. Without links the text tells
where a path leads, so the directory of what is found and the start are as far apart as the
components that were cut off: these lead from the one to the other. A name among them goes down to
the start, but `..` goes up, and cutting it off can lead to a directory that is not above the start.
-/

namespace WasmBundle.Proofs
open Disk WasmBundle.Path

/-- The search goes up as many times and ends with the answer. -/
inductive Searches (isFile : Path → Bool) : Path → Nat → Option Path → Prop
  | found {dir : Path} (h : isFile (dir.join Config.fileName) = true) :
    Searches isFile dir 0 (some (dir.join Config.fileName))
  | top {dir : Path} (h : isFile (dir.join Config.fileName) = false) (hp : dir.parent? = none) :
    Searches isFile dir 0 none
  | up {dir q : Path} {n : Nat} {o : Option Path} (h : isFile (dir.join Config.fileName) = false)
    (hp : dir.parent? = some q) (hs : Searches isFile q n o) : Searches isFile dir (n + 1) o

lemma config_find?_eq (isFile : Path → Bool) (dir : Path) :
    Config.find? isFile dir = if isFile (dir.join Config.fileName) then
      some (dir.join Config.fileName) else dir.parent?.bind (Config.find? isFile) := by
  rw [Config.find?, Path.ancestors]
  split
  · rename_i hp
    rw [hp]
    cases h : isFile (dir.join Config.fileName) <;> simp [h]
  · rename_i q hp
    rw [hp]
    cases h : isFile (dir.join Config.fileName) <;> simp [h, Config.find?]

/-- The search ends; it goes up no more often than the directory has components. -/
theorem exists_searches (isFile : Path → Bool) (dir : Path) :
    ∃ n ≤ dir.components.length, Searches isFile dir n (Config.find? isFile dir) := by
  fun_induction Path.ancestors dir with
  | case1 dir hp =>
    rw [config_find?_eq, hp]
    cases h : isFile (dir.join Config.fileName) with
    | false => exact ⟨0, Nat.zero_le _, .top h hp⟩
    | true => exact ⟨0, Nat.zero_le _, .found h⟩
  | case2 dir q hp ih =>
    obtain ⟨c, -, hcomponents⟩ := components_of_parent? hp
    obtain ⟨n, hn, hsearches⟩ := ih
    rw [config_find?_eq, hp]
    cases h : isFile (dir.join Config.fileName) with
    | false =>
      refine ⟨n + 1, ?_, .up h hp hsearches⟩
      rw [hcomponents, List.length_append]
      exact Nat.succ_le_succ hn
    | true => exact ⟨0, Nat.zero_le _, .found h⟩

/-- What is found is a file beside a path from which as many components were cut off as the search
went up. -/
theorem exists_cut_of_searches {isFile : Path → Bool} {dir p : Path} {n : Nat}
    (h : Searches isFile dir n (some p)) : isFile p = true ∧ ∃ (q : Path) (cut : List Component),
      p = q.join Config.fileName ∧ dir.components = q.components ++ cut ∧ cut.length = n ∧
        Component.root ∉ cut := by
  generalize ho : some p = o at h
  induction h with
  | @found dir hfile =>
    cases ho
    exact ⟨hfile, dir, [], rfl, (List.append_nil _).symm, rfl, List.not_mem_nil⟩
  | top _ _ => cases ho
  | up _ hp _ ih =>
    obtain ⟨hfile, q, cut, hjoin, hq, hlength, hroot⟩ := ih ho
    obtain ⟨c, hc, hdir⟩ := components_of_parent? hp
    refine ⟨hfile, q, cut ++ [c], hjoin, ?_, ?_, ?_⟩
    · rw [hdir, hq, List.append_assoc]
    · rw [List.length_append, hlength, List.length_singleton]
    · rw [List.mem_append, List.mem_singleton, not_or]
      exact ⟨hroot, hc.symm⟩

/-- Where a component leads, going by the text alone. -/
def stride (l : Location) : Component → Location
  | .root => []
  | .current => l
  | .parent => l.dropLast
  | .normal name => l ++ [name]

lemma stride_componentOf (l : Location) {part : Bytes} (h : part ≠ []) :
    stride l (componentOf part) = follow l part := by
  by_cases hdot : part = [dot]
  · rw [hdot]
    rfl
  · have hpart : ignorable part = false := by simp [ignorable, h, hdot]
    rw [follow, hpart, componentOf, if_neg hdot]
    split <;> rfl

lemma foldl_stride_laterComponents (ps : List Bytes) (l : Location) :
    (laterComponents ps).foldl stride l = ps.foldl follow l := by
  induction ps generalizing l with
  | nil => rfl
  | cons part ps ih =>
    have hsplit : laterComponents (part :: ps) = laterComponents [part] ++ laterComponents ps :=
      laterComponents_append [part] ps
    rw [hsplit, List.foldl_append, ih, List.foldl_cons]
    cases h : ignorable part with
    | true => rw [laterComponents_of_ignorable h, List.foldl_nil, follow, if_pos h]
    | false =>
      have hne : part ≠ [] := by
        rintro rfl
        cases h
      rw [laterComponents_of_not_ignorable h, List.foldl_cons, List.foldl_nil,
        stride_componentOf l hne]

lemma foldl_stride_components (here : Location) (p : Path) :
    p.components.foldl stride here = (parts p).foldl follow (origin here p) := by
  -- The first part is a component of its own: empty before the root, and maybe a leading `.`.
  obtain ⟨head, tail, hp⟩ := exists_splitAtSeparator_eq_cons separator p.bytes
  have hcomponents : p.components = partComponents (head :: tail) := by rw [components_eq, hp]
  have habs := head?_components_eq_root_iff p
  rw [hcomponents] at habs
  rw [hcomponents, parts, hp, List.foldl_cons]
  by_cases hhead : head = []
  · by_cases htail : tail = []
    · have hrelative : ¬p.isAbsolute = true := fun h => by
        have hnone := habs.2 h
        rw [hhead, htail] at hnone
        cases hnone
      rw [hhead, htail, origin, if_neg hrelative]
      rfl
    · rw [hhead, partComponents_eq_cons htail] at habs ⊢
      rw [origin, if_pos (habs.1 rfl), List.foldl_cons, foldl_stride_laterComponents]
      rfl
  · rw [partComponents_cons hhead] at habs ⊢
    have hrelative : ¬p.isAbsolute = true := fun h =>
      componentOf_ne_root head (Option.some.inj (habs.2 h))
    rw [origin, if_neg hrelative, List.foldl_cons, foldl_stride_laterComponents,
      stride_componentOf here hhead]

lemma prefix_foldl_stride {cut : List Component} (hroot : Component.root ∉ cut)
    (hparent : Component.parent ∉ cut) (l : Location) : l <+: cut.foldl stride l := by
  induction cut generalizing l with
  | nil => exact List.prefix_rfl
  | cons c cut ih =>
    rw [List.mem_cons, not_or] at hroot hparent
    have hstep : l <+: stride l c := by
      cases c with
      | root => exact absurd rfl hroot.1
      | current => exact List.prefix_rfl
      | parent => exact absurd rfl hparent.1
      | normal name => exact List.prefix_append l [name]
    exact hstep.trans (ih hroot.2 hparent.2 (stride l c))

/-- Nothing on the disk is a link. -/
def Linkless (d : Disk) : Prop := Everywhere (fun t => ∀ target, t.entry ≠ .link target) d.tree

variable {d : Disk} {links : Nat} {w : Way} {l : Location} {p : Path}

/-- Without links, parts lead where their text says. -/
theorem eq_foldl_of_arrives (hd : Linkless d) {ps : List Bytes}
    (h : Arrives d false links w ps l) (hw : Leads d w) : l = ps.foldl follow w.location := by
  induction h with
  | done links w => rfl
  | stay _ hpart _ ih => rw [List.foldl_cons, follow, if_pos hpart, ih hw]
  | @up _ w _ _ _ _ _ ih =>
    have hstep : follow w.location up = w.location.dropLast := rfl
    rw [List.foldl_cons, hstep, ← location_tail, ih hw.tail]
  | new _ _ _ hnew => cases hnew
  | link _ _ hchild hlink _ _ => exact absurd hlink (hd _ _ (hw.onward hchild).at?_location _)
  | @enter _ w part _ _ _ t _ hname hchild _ _ ih =>
    have hstep : follow w.location part = w.location ++ [part] := by
      rw [follow, hname.isPart, if_neg Bool.false_ne_true, if_neg hname.notParent]
    rw [List.foldl_cons, hstep, ← location_cons, ih (hw.onward hchild)]

lemma location_of_start (h : d.start p = .ok w) : w.location = origin d.workingDirectory p := by
  unfold Disk.start at h
  unfold Disk.origin
  split at h
  · rename_i habs
    cases h
    rw [if_pos habs, location_nil]
  · rename_i habs
    rw [if_neg habs]
    split at h
    · rename_i w' hway
      cases h
      exact (Leads.root.wayOn? hway).2
    · cases h

/-- Without links a path leads where its components lead from the working directory. -/
theorem eq_foldl_of_locate (hd : Linkless d) (h : d.locate p = .ok l) :
    l = p.components.foldl stride d.workingDirectory := by
  obtain ⟨-, w, hstart, harrives⟩ := locate_eq_ok_iff.1 h
  rw [foldl_stride_components, ← location_of_start hstart]
  exact eq_foldl_of_arrives hd harrives (leads_start hstart)

lemma components_join_fileName (q : Path) :
    (q.join Config.fileName).components =
      q.components ++ [.normal (Bytes.utf8 "grainpack.toml")] := by
  have hname : Config.fileName.components = [.normal (Bytes.utf8 "grainpack.toml")] := by decide
  have hnil : joined q.components [] = q.components := by
    by_cases h : q.components = [] <;> simp [joined, h]
  have hconcat := joined_concat q.components [] (Bytes.utf8 "grainpack.toml")
  rw [components_join, hname]
  rwa [hnil, List.nil_append] at hconcat

/-- The search for a configuration ends. On a disk without links, what it finds is in the directory
from which the components that were cut off lead to the start. So it is the directory of the start
or above it, unless `..` was cut off. -/
theorem config_found_above_start (d : Disk) (dir : Path) :
    ∃ n ≤ dir.components.length, Searches d.isFile dir n (Config.find? d.isFile dir) ∧
      ∀ l p, Linkless d → d.locate dir = .ok l → Config.find? d.isFile dir = some p →
        ∃ (q : Path) (cut : List Component) (holder : Location),
          p = q.join Config.fileName ∧ dir.components = q.components ++ cut ∧ cut.length = n ∧
          Component.root ∉ cut ∧ d.isFile p = true ∧
          d.locate p = .ok (holder ++ [Bytes.utf8 "grainpack.toml"]) ∧ l = cut.foldl stride holder ∧
          (Component.parent ∉ cut → holder <+: l) := by
  obtain ⟨n, hn, hsearches⟩ := exists_searches d.isFile dir
  refine ⟨n, hn, hsearches, fun l p hd hdir hp => ?_⟩
  rw [hp] at hsearches
  obtain ⟨hfile, q, cut, hjoin, hcomponents, hlength, hroot⟩ := exists_cut_of_searches hsearches
  obtain ⟨m, -, -, hm, -, -⟩ := isFile_iff.1 hfile
  have hholder : m =
      q.components.foldl stride d.workingDirectory ++ [Bytes.utf8 "grainpack.toml"] := by
    rw [eq_foldl_of_locate hd hm, hjoin, components_join_fileName, List.foldl_append]
    rfl
  have hl : l = cut.foldl stride (q.components.foldl stride d.workingDirectory) := by
    rw [eq_foldl_of_locate hd hdir, hcomponents, List.foldl_append]
  refine ⟨q, cut, _, hjoin, hcomponents, hlength, hroot, hfile, hholder ▸ hm, hl, fun hparent => ?_⟩
  rw [hl]
  exact prefix_foldl_stride hroot hparent _

/-- Without links a path at whose text's end there is nothing leads to no file. -/
lemma isFile_eq_false (hd : Linkless d)
    (h : d.node? (p.components.foldl stride d.workingDirectory) = none) : d.isFile p = false := by
  rw [Bool.eq_false_iff]
  intro hfile
  obtain ⟨m, n, f, hm, hnode, -⟩ := isFile_iff.1 hfile
  rw [← eq_foldl_of_locate hd hm, hnode] at h
  cases h

/-- A directory with a configuration and another directory. -/
def projectDirectory : Tree :=
  .directory { mode := directoryMode }
    [(Bytes.utf8 "grainpack.toml", .file 0), (Bytes.utf8 "b", .emptyDirectory)]

def project : Disk where
  tree := .directory { mode := directoryMode } [(Bytes.utf8 "a", projectDirectory)]
  files := [{}]

lemma linkless_project : Linkless project := by
  refine everywhere_of_children (fun _ h => nomatch h) (List.forall_mem_singleton.2 ?_)
  refine everywhere_of_children (fun _ h => nomatch h) (List.forall_mem_cons.2 ⟨?_, ?_⟩)
  · exact everywhere_of_childless (fun _ h => nomatch h) rfl
  · exact List.forall_mem_singleton.2 (everywhere_of_childless (fun _ h => nomatch h) rfl)

lemma locate_project {rest : List Bytes} (hfault : fault? p = none)
    (hrelative : p.isAbsolute = false) (hparts : parts p = Bytes.utf8 "a" :: rest)
    (hrest : Arrives project false linkLimit [(Bytes.utf8 "a", projectDirectory)] rest l) :
    project.locate p = .ok l := by
  have hstart : project.start p = .ok [] := by
    rw [Disk.start, hrelative]
    rfl
  have hplain : ∀ target, projectDirectory.entry ≠ .link target := by
    intro target h
    cases h
  refine locate_eq_ok_iff.2 ⟨hfault, [], hstart, ?_⟩
  rw [hparts]
  exact .enter rfl ⟨by decide, by decide, by decide⟩ rfl hplain hrest

lemma locate_project_config :
    project.locate "a/grainpack.toml" = .ok [Bytes.utf8 "a", Bytes.utf8 "grainpack.toml"] := by
  have hparts : parts "a/grainpack.toml" = [Bytes.utf8 "a", Bytes.utf8 "grainpack.toml"] := by
    decide
  refine locate_project (by decide) (by decide) hparts ?_
  exact .enter rfl ⟨by decide, by decide, by decide⟩ rfl (fun _ h => nomatch h) (.done _ _)

lemma isFile_project_config : project.isFile "a/grainpack.toml" = true :=
  isFile_iff.2 ⟨_, 0, {}, locate_project_config, rfl, rfl⟩

lemma config_find?_project {dir : Path} (hnone : project.isFile (dir.join Config.fileName) = false)
    (hparent : dir.parent? = some (.ofText "a")) :
    Config.find? project.isFile dir = some (.ofText "a/grainpack.toml") := by
  have hjoin : ("a" : Path).join Config.fileName = "a/grainpack.toml" := by decide
  rw [config_find?_eq, hnone, if_neg Bool.false_ne_true, hparent, Option.bind_some,
    config_find?_eq, hjoin, isFile_project_config, if_pos rfl]

theorem config_found_above_start_nested :
    Linkless project ∧ project.locate "a/./b" = .ok [Bytes.utf8 "a", Bytes.utf8 "b"] ∧
      Config.find? project.isFile "a/./b" = some (.ofText "a/grainpack.toml") ∧
      ∃ holder, project.locate "a/grainpack.toml" = .ok (holder ++ [Bytes.utf8 "grainpack.toml"]) ∧
        holder <+: [Bytes.utf8 "a", Bytes.utf8 "b"] := by
  have hparts : parts "a/./b" = [Bytes.utf8 "a", [dot], Bytes.utf8 "b"] := by decide
  have hdir : project.locate "a/./b" = .ok [Bytes.utf8 "a", Bytes.utf8 "b"] := by
    refine locate_project (by decide) (by decide) hparts (.stay rfl (by decide) ?_)
    exact .enter rfl ⟨by decide, by decide, by decide⟩ rfl (fun _ h => nomatch h) (.done _ _)
  have hfound : Config.find? project.isFile "a/./b" = some (.ofText "a/grainpack.toml") :=
    config_find?_project (isFile_eq_false linkless_project (by decide)) (by decide)
  obtain ⟨n, -, -, hconfig⟩ := config_found_above_start project "a/./b"
  obtain ⟨q, cut, holder, -, hcut, -, -, -, hholder, -, habove⟩ :=
    hconfig _ _ linkless_project hdir hfound
  refine ⟨linkless_project, hdir, hfound, holder, hholder, habove fun hparent => ?_⟩
  have hmem : Component.parent ∈ ("a/./b" : Path).components :=
    hcut ▸ List.mem_append_right _ hparent
  exact absurd hmem (by decide)

/-- Where the start ends in `..`, a configuration below it is found. -/
theorem config_found_below_start :
    Linkless project ∧ project.locate "a/.." = .ok [] ∧ project.isDirectoryAt [] = true ∧
      Config.find? project.isFile "a/.." = some (.ofText "a/grainpack.toml") ∧
      project.locate "a/grainpack.toml" = .ok ([Bytes.utf8 "a"] ++ [Bytes.utf8 "grainpack.toml"]) ∧
      ¬[Bytes.utf8 "a"] <+: ([] : Location) := by
  have hparts : parts "a/.." = [Bytes.utf8 "a", up] := by decide
  have hdir : project.locate "a/.." = .ok [] :=
    locate_project (by decide) (by decide) hparts (.up rfl (.done _ _))
  have hfound : Config.find? project.isFile "a/.." = some (.ofText "a/grainpack.toml") :=
    config_find?_project (isFile_eq_false linkless_project (by decide)) (by decide)
  exact ⟨linkless_project, hdir, by decide, hfound, locate_project_config, by decide⟩

end WasmBundle.Proofs
