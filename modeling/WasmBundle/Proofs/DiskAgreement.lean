import WasmBundle.Proofs.DiskListing
import WasmBundle.Proofs.NameResolution

/-!
# Both strategies on a disk

Root by root, an indexing resolver finds the file of an import name in the listing of a directory if
a probing one finds it under its path, and the paths they answer with lead to the same file. Two
things come between them: a directory that is hidden has an empty listing, and a path that is too
long to be followed can be listed under a shorter spelling.
-/

namespace WasmBundle.Proofs
open WasmBundle.Path Disk

variable {d : Disk} {ext name leaf : String} {sub root : Path} {roots : List Path}

/-- The file of an import name. -/
def artifactFile (ext name : String) : Path := .ofText (name ++ "." ++ ext)

/-- The directory below a root in which an indexing resolver looks for the file of an import name.
-/
def searched (ext name : String) (root : Path) : Path :=
  let sub := ((artifactFile ext name).parent?).getD ""
  if sub.isEmpty then root else root.join sub

lemma isText_searched (ext name : String) {root : Path} (h : root.bytes.isText = true) :
    (searched ext name root).bytes.isText = true := by
  have hsub : (((artifactFile ext name).parent?).getD "").bytes.isText = true := by
    cases hparent : (artifactFile ext name).parent? with
    | none => exact Bytes.isText_utf8 ""
    | some sub => exact isText_parent? (Bytes.isText_utf8 _) hparent
  unfold searched
  dsimp only
  split
  · exact h
  · exact isText_join h hsub

lemma exists_into (hext : PlainExtension ext) (name : String) :
    ∃ sub leaf, (artifactFile ext name).parent? = some sub ∧
      (artifactFile ext name).fileText? = some leaf ∧ ∀ root : Path, root.isEmpty = false →
        (searched ext name root).isEmpty = false ∧
        Into (searched ext name root) ext leaf (root.join (artifactFile ext name)) := by
  obtain ⟨front, leaf, hcomponents, hleaf⟩ := components_artifact hext name
  obtain ⟨sub, hparent, rfl⟩ := exists_parent? (by simp) hcomponents
  have hfile : (artifactFile ext name).components =
      sub.components ++ [.normal (Bytes.utf8 leaf)] := hcomponents
  have hsub : (artifactFile ext name).parent? = some sub := hparent
  have hname : (artifactFile ext name).fileName? = some (Bytes.utf8 leaf) :=
    fileName?_eq_some_iff.2 ⟨_, hfile⟩
  have hshown : (artifactFile ext name).fileText? = some leaf := by
    rw [fileText?, hname, Option.map_some, shown_utf8]
  have hstep := mem_steps_of_fileName hname
  have hsep : separator ∉ Bytes.utf8 leaf :=
    not_mem_of_mem_splitAtSeparator (List.mem_filter.1 hstep).1
  have hfileName := fileName_of_suffix hext hsep hleaf
  refine ⟨sub, leaf, hsub, hshown, fun root hroot => ?_⟩
  have hsearched : searched ext name root = if sub.isEmpty then root else root.join sub := by
    rw [searched, hsub, Option.getD_some]
  have htext : ((if sub.isEmpty then root else root.join sub).join leaf).bytes.Sublist
      (root.join (artifactFile ext name)).bytes := by
    by_cases hs : sub.isEmpty = true
    · rw [if_pos hs]
      refine join_sublist_join root ?_ (sublist_of_mem_splitAtSeparator (List.mem_filter.1 hstep).1)
      refine (sameWay_of_components (hfileName.components.trans ?_)).absolute
      rw [hfile, (components_eq_nil_iff sub).2 hs, List.nil_append]
    · have hs' : sub.isEmpty = false := by simpa using hs
      rw [if_neg hs, join_assoc]
      refine join_sublist_join root ?_ (join_fileName_sublist hsub hname hs')
      exact (sameWay_join hfileName hs' hfile).symm.absolute
  rw [hsearched]
  refine ⟨?_, ?_, htext, ?_, hfileName, hleaf⟩
  · split
    · exact hroot
    · rename_i hs
      obtain ⟨front, htext⟩ := suffix_join root sub
      rw [Path.isEmpty, ← htext]
      simpa [Path.isEmpty] using fun _ => hs
  · rw [components_join, components_ite_isEmpty, ← joined_concat, hfile]
  · refine List.IsSuffix.trans ⟨Bytes.utf8 name, ?_⟩ (suffix_join _ _)
    rw [artifactFile, ofText, String.append_assoc, ← utf8_append]

/-- The listings kept belong to roots in front of a position. -/
def KeptBefore (position : Nat) (r : Resolver) : Prop :=
  ∀ kept ∈ r.index, kept.1.position < position

lemma listing_disk {r : Resolver} {position : Nat} (h : KeptBefore position r) {dir : Path}
    (hdir : (if sub.isEmpty then root else root.join sub) = dir) :
    ∃ index trace, Resolver.listing d.source r position root sub =
      ⟨.ok (d.artifacts dir r.extension), { r with index }, trace⟩ ∧
        KeptBefore (position + 1) { r with index } := by
  have hnone : r.index.lookup ⟨position, sub.components⟩ = none := by
    refine List.lookup_eq_none_iff.2 fun kept hkept => ?_
    have hne : kept.1 ≠ ⟨position, sub.components⟩ := fun e => by
      have hlt := h kept hkept
      rw [e] at hlt
      exact Nat.lt_irrefl _ hlt
    simpa using hne.symm
  refine ⟨(⟨position, sub.components⟩, d.artifacts dir r.extension) :: r.index, [.listing dir],
    ?_, fun kept hkept => ?_⟩
  · simp only [Resolver.listing, hnone, hdir]
    rfl
  · rcases List.mem_cons.1 hkept with rfl | hkept
    · exact Nat.lt_succ_self position
    · exact Nat.lt_succ_of_lt (h kept hkept)

/-- What a probing resolver finds below a root an indexing one can see: the directory that it
searches is not hidden, and the path to the file is not too long. -/
structure Visible (d : Disk) (ext name : String) (root : Path) : Prop where
  nonempty : root.isEmpty = false
  texts : TextEntries d.tree ∨ root.bytes.isText = true
  shown : ¬Hidden (searched ext name root)
  fits : (root.join (artifactFile ext name)).bytes.length ≤ pathLimit

/-- The first root with the file is the same for both strategies, and the paths found lead to the
same file. -/
lemma lookupRoots_disk (hd : Named d.tree) (hext : PlainExtension ext)
    (hsub : (artifactFile ext name).parent? = some sub)
    (hinto : ∀ root : Path, root.isEmpty = false → (searched ext name root).isEmpty = false ∧
      Into (searched ext name root) ext leaf (root.join (artifactFile ext name)))
    {r : Resolver} (hr : r.extension = ext) {position : Nat} (hkept : KeptBefore position r)
    (hroots : ∀ root ∈ roots, Visible d ext name root) :
    ∃ found, (Resolver.lookupRoots d.source sub leaf r position roots).answer = .ok found ∧
      Option.Rel (SameFile d)
        ((roots.map fun root => root.join (artifactFile ext name)).find? d.isFile)
        found := by
  induction roots generalizing r position with
  | nil => exact ⟨none, rfl, .none⟩
  | cons root roots ih =>
    obtain ⟨hnonempty, htexts, hshown, hfits⟩ := hroots root List.mem_cons_self
    obtain ⟨hdir, hroot⟩ := hinto root hnonempty
    have hsearched : (if sub.isEmpty then root else root.join sub) = searched ext name root := by
      rw [searched, hsub, Option.getD_some]
    obtain ⟨index, trace, hlisting, hkept'⟩ := listing_disk (d := d) hkept hsearched
    have hpaths : (Resolver.listing d.source r position root sub).answer =
        .ok (d.artifacts (searched ext name root) ext) := by rw [hlisting, hr]
    rw [List.map_cons]
    rcases lookup?_artifacts_disk hd hext hdir (htexts.imp_right (isText_searched ext name)) hshown
      hroot hfits with ⟨q, hq, hsame⟩ | ⟨hq, hnofile⟩
    · refine ⟨some q, by rw [lookupRoots_of_found hpaths hq], ?_⟩
      rw [List.find?_cons_of_pos hsame.isFile]
      exact .some hsame
    · -- The listing that is kept now belongs to this root and is not looked at for later ones.
      obtain ⟨found, hfound, hrel⟩ := ih (r := { r with index }) hr hkept'
        fun root hroot => hroots root (List.mem_cons_of_mem _ hroot)
      refine ⟨found, ?_, ?_⟩
      · rw [lookupRoots_of_missing hpaths hq, hlisting]
        exact hfound
      · rwa [List.find?_cons_of_neg (by simp [hnofile])]

/-- On a disk an indexing resolver finds a name exactly if a probing one does, and the paths they
find lead to the same file, as long as no directory that is searched is hidden and no path that is
probed is too long. Either the names on the disk or the roots must be texts. -/
theorem index_agrees_on_disk (d : Disk) (hd : Named d.tree) (ext : String)
    (hext : PlainExtension ext) (dirs : List Path) (name : String)
    (htexts : TextEntries d.tree ∨
      ∀ root ∈ (SearchPath.ofList dirs).roots, root.bytes.isText = true)
    (hshown : ∀ root ∈ (SearchPath.ofList dirs).roots, ¬Hidden (searched ext name root))
    (hfits : ∀ p ∈ candidates (.ofList dirs) ext name, p.bytes.length ≤ pathLimit) :
    ∃ probed listed,
      (Resolver.resolve d.source ⟨.ofList dirs, ext, .probe, []⟩ name).answer = .ok probed ∧
      (Resolver.resolve d.source ⟨.ofList dirs, ext, .index, []⟩ name).answer = .ok listed ∧
      Option.Rel (SameFile d) probed listed := by
  obtain ⟨sub, leaf, hsub, hname, hinto⟩ := exists_into hext name
  have hroots : ∀ root ∈ (SearchPath.ofList dirs).roots, Visible d ext name root :=
    fun root hroot => ⟨(SearchPath.ofList dirs).nonempty root hroot,
      htexts.imp_right fun h => h root hroot, hshown root hroot,
      hfits _ (List.mem_map_of_mem hroot)⟩
  have hfresh : KeptBefore 0 ⟨.ofList dirs, ext, .index, []⟩ := fun _ h => nomatch h
  obtain ⟨found, hfound, hrel⟩ := lookupRoots_disk hd hext hsub hinto rfl hfresh hroots
  refine ⟨_, found, ?_, ?_, hrel⟩
  · rw [resolve_probe _ rfl]
    rfl
  · have hfile : Path.ofText (Resolver.artifactFileName ⟨.ofList dirs, ext, .index, []⟩ name) =
        artifactFile ext name := rfl
    rw [resolve_eq_lookupRoots _ rfl, hfile, hsub, hname]
    exact hfound

/-- A disk with an artifact in a directory. -/
def library : Disk where
  tree := .directory { mode := directoryMode }
    [(Bytes.utf8 "lib", .directory { mode := directoryMode } [(Bytes.utf8 "foo.gr.wasm", .file 0)])]
  files := [{}]

lemma named_library : Named library.tree := by
  refine everywhere_of_children (by decide) (List.forall_mem_singleton.2 ?_)
  refine everywhere_of_children (by decide) (List.forall_mem_singleton.2 ?_)
  exact everywhere_of_childless (by decide) rfl

lemma textEntries_library : TextEntries library.tree := by
  refine everywhere_of_children (by decide) (List.forall_mem_singleton.2 ?_)
  refine everywhere_of_children (by decide) (List.forall_mem_singleton.2 ?_)
  exact everywhere_of_childless (by decide) rfl

/-- However it is spelled, a path that goes to the directory and then to the artifact leads to it.
-/
lemma isFile_library {p : Path} (hfault : fault? p = none) (hrel : p.isAbsolute = false)
    (hends : EndsInStep (parts p))
    (hsteps : steps p = [Bytes.utf8 "lib", Bytes.utf8 "foo.gr.wasm"]) :
    library.isFile p = true := by
  have hlib : NamesEntry (Bytes.utf8 "lib") := ⟨by decide, by decide, by decide⟩
  have hfoo : NamesEntry (Bytes.utf8 "foo.gr.wasm") := ⟨by decide, by decide, by decide⟩
  have harrives : Arrives library false linkLimit [] [Bytes.utf8 "lib", Bytes.utf8 "foo.gr.wasm"]
      [Bytes.utf8 "lib", Bytes.utf8 "foo.gr.wasm"] :=
    .enter rfl hlib rfl (fun _ h => nomatch h)
      (.enter rfl hfoo rfl (fun _ h => nomatch h) (.done _ _))
  have hstart : library.start p = .ok [] := by
    rw [Disk.start, hrel]
    rfl
  refine isFile_iff.2 ⟨[Bytes.utf8 "lib", Bytes.utf8 "foo.gr.wasm"], 0, {},
    locate_eq_ok_iff.2 ⟨hfault, [], hstart, ?_⟩,
    rfl, rfl⟩
  have hsame : [Bytes.utf8 "lib", Bytes.utf8 "foo.gr.wasm"].filter (fun s => !ignorable s) =
      (parts p).filter fun s => !ignorable s := Eq.trans (by decide) hsteps.symm
  exact arrives_of_alike (.inr ⟨hsame, ⟨_, rfl, by decide⟩, hends⟩) harrives

theorem index_agrees_on_disk_doubled_separator :
    Named library.tree ∧ PlainExtension "gr.wasm" ∧ TextEntries library.tree ∧
      (∀ root ∈ (SearchPath.ofList ["./lib//"]).roots, ¬Hidden (searched "gr.wasm" "foo" root)) ∧
      (∀ p ∈ candidates (.ofList ["./lib//"]) "gr.wasm" "foo",
        p.bytes.length ≤ pathLimit) ∧
      ∃ q, (Resolver.resolve library.source ⟨.ofList ["./lib//"], "gr.wasm", .index, []⟩
        "foo").answer = .ok (some q) ∧ SameFile library "./lib//foo.gr.wasm" q := by
  have hroots : (SearchPath.ofList ["./lib//"]).roots = [.ofText "./lib//"] := by decide
  have hcandidates : candidates (.ofList ["./lib//"]) "gr.wasm" "foo" =
      [.ofText "./lib//foo.gr.wasm"] := by decide
  have hshown : ∀ root ∈ (SearchPath.ofList ["./lib//"]).roots,
      ¬Hidden (searched "gr.wasm" "foo" root) := by
    rw [hroots]
    refine List.forall_mem_singleton.2 ?_
    rintro ⟨n, rest, h⟩
    have hparts : splitAtSeparator separator (searched "gr.wasm" "foo" "./lib//").bytes =
        [[dot], Bytes.utf8 "lib", [], []] := by decide
    rw [hparts] at h
    cases n <;> cases h
  have hfits : ∀ p ∈ candidates (.ofList ["./lib//"]) "gr.wasm" "foo",
      p.bytes.length ≤ pathLimit := by
    rw [hcandidates]
    exact List.forall_mem_singleton.2 (by decide)
  refine ⟨named_library, plainExtension_default, textEntries_library, hshown, hfits, ?_⟩
  obtain ⟨probed, listed, hprobed, hlisted, hrel⟩ :=
    index_agrees_on_disk library named_library "gr.wasm" plainExtension_default ["./lib//"] "foo"
      (.inl textEntries_library) hshown hfits
  have hfile : library.isFile "./lib//foo.gr.wasm" = true :=
    isFile_library (by decide) (by decide) ⟨_, rfl, by decide⟩ (by decide)
  have hfound : (candidates (.ofList ["./lib//"]) "gr.wasm" "foo").find? library.source.isFile =
      some (.ofText "./lib//foo.gr.wasm") := by
    rw [hcandidates]
    exact List.find?_cons_of_pos hfile
  rw [resolve_probe _ rfl, hfound] at hprobed
  cases hprobed
  cases hrel with
  | some hsame => exact ⟨_, hlisted, hsame⟩

/-- Behind a leading `.` and two separators an indexing resolver misses what a probing one finds. -/
theorem index_misses_hidden_root :
    Named library.tree ∧ PlainExtension "gr.wasm" ∧
      (Resolver.resolve library.source ⟨.ofList [".//lib"], "gr.wasm", .probe, []⟩ "foo").answer =
        .ok (some (.ofText ".//lib/foo.gr.wasm")) ∧
      (Resolver.resolve library.source ⟨.ofList [".//lib"], "gr.wasm", .index, []⟩ "foo").answer =
        .ok none := by
  have hcandidates : candidates (.ofList [".//lib"]) "gr.wasm" "foo" =
      [.ofText ".//lib/foo.gr.wasm"] := by decide
  have hfile : library.isFile ".//lib/foo.gr.wasm" = true :=
    isFile_library (by decide) (by decide) ⟨_, rfl, by decide⟩ (by decide)
  have hhidden : Hidden ".//lib" := ⟨0, [Bytes.utf8 "lib"], by decide⟩
  refine ⟨named_library, plainExtension_default, ?_, ?_⟩
  · rw [resolve_probe _ rfl, hcandidates]
    exact congrArg Except.ok (List.find?_cons_of_pos hfile)
  · have hroots : (SearchPath.ofList [".//lib"]).roots = [.ofText ".//lib"] := by decide
    have hlisting : (Resolver.listing library.source ⟨.ofList [".//lib"], "gr.wasm", .index, []⟩ 0
        ".//lib" "").answer = .ok [] := 
      congrArg Except.ok (artifacts_of_hidden (Bytes.isText_utf8 _) hhidden)
    have hparent : (Path.ofText (Resolver.artifactFileName
        ⟨.ofList [".//lib"], "gr.wasm", .index, []⟩ "foo")).parent? = some (.ofText "") := by decide
    rw [resolve_eq_lookupRoots _ rfl, hroots, hparent, Option.getD_some,
      lookupRoots_of_missing hlisting rfl]
    rfl

end WasmBundle.Proofs
