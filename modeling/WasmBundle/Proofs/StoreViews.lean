import Mathlib.Data.List.Find
import WasmBundle.Proofs.PathTexts
import WasmBundle.Resolver
import WasmBundle.Store

/-!
# Two views of a store

A store answers whether it has a file under a path, and it lists the artifacts of a directory. Both
depend on components only. In a listing the path of an artifact is found as the last file whose name
is shown as that of the path; if the names of the files are texts, it is the file under the path.
-/

namespace WasmBundle.Proofs
open WasmBundle.Path Resolver

/-- An extension that makes a file name of every text it is put behind. -/
structure PlainExtension (ext : String) : Prop where
  nonempty : ext ≠ ""
  not_dot : ext.toList.head? ≠ some '.'
  no_separator : '/' ∉ ext.toList

lemma plainExtension_default : PlainExtension "gr.wasm" := ⟨by decide, by decide, by decide⟩

lemma componentOf_append {s t : Bytes} (ht : t ≠ []) (hd : t.head? ≠ some dot) :
    componentOf (s ++ dot :: t) = .normal (s ++ dot :: t) := by
  obtain ⟨c, t, rfl⟩ := List.exists_cons_of_ne_nil ht
  have hc : c ≠ dot := fun h => hd (by rw [h, List.head?_cons])
  have hone : s ++ dot :: c :: t ≠ [dot] := by
    intro h
    have hlen := congrArg List.length h
    simp only [List.length_append, List.length_cons, List.length_nil] at hlen
    omega
  have htwo : s ++ dot :: c :: t ≠ up := by
    intro h
    have hlen := congrArg List.length h
    simp only [up, List.length_append, List.length_cons, List.length_nil] at hlen
    have hs : s = [] := List.eq_nil_of_length_eq_zero (by omega)
    rw [hs] at h
    cases h
    exact hc rfl
  rw [componentOf, if_neg hone, if_neg htwo]

lemma partComponents_concat (front : List Bytes) {s : Bytes}
    (h : ignorable s = false) : ∃ d, partComponents (front ++ [s]) = d ++ [componentOf s] := by
  cases front with
  | nil =>
    have hs : s ≠ [] := fun e => by simp [ignorable, e] at h
    exact ⟨[], partComponents_cons hs []⟩
  | cons head t =>
    refine ⟨firstComponent head :: laterComponents t, ?_⟩
    rw [List.cons_append, partComponents_eq_cons (by simp), laterComponents_append,
      laterComponents_of_not_ignorable h, List.cons_append]

lemma utf8_concat_extension (s ext : String) :
    Bytes.utf8 (s ++ "." ++ ext) = Bytes.utf8 s ++ dot :: Bytes.utf8 ext := by
  rw [utf8_append, utf8_append, List.append_assoc]
  rfl

/-- A text that ends in a dot and an extension is a name. -/
lemma componentOf_utf8 {ext : String} (hext : PlainExtension ext) (s : String) :
    componentOf (Bytes.utf8 (s ++ "." ++ ext)) = .normal (Bytes.utf8 (s ++ "." ++ ext)) ∧
      ignorable (Bytes.utf8 (s ++ "." ++ ext)) = false := by
  have hne : Bytes.utf8 ext ≠ [] := fun h => hext.nonempty (utf8_eq_nil_iff.1 h)
  have hdot : (Bytes.utf8 ext).head? ≠ some dot := fun h =>
    hext.not_dot ((head?_utf8_iff (d := '.') (by decide)).1 h)
  rw [utf8_concat_extension]
  refine ⟨componentOf_append hne hdot, ?_⟩
  simp [ignorable, List.append_eq_cons_iff, hne]

/-- The file of an import name ends in a name that is a text and ends in a dot and the extension. -/
theorem components_artifact {ext : String} (hext : PlainExtension ext) (name : String) :
    ∃ d leaf, (Path.ofText (name ++ "." ++ ext)).components = d ++ [.normal (Bytes.utf8 leaf)] ∧
      ("." ++ ext).toList <:+ leaf.toList := by
  have hsep : '/' ∉ ("." ++ ext).toList := by
    simpa using hext.no_separator
  obtain ⟨front, last, -, hsplit⟩ := splitAtSeparator_append_of_not_mem name.toList hsep
  have hlast : String.ofList (last ++ ("." ++ ext).toList) = String.ofList last ++ "." ++ ext := by
    rw [String.ofList_append, String.ofList_toList, String.append_assoc]
  obtain ⟨hname, hi⟩ := componentOf_utf8 hext (String.ofList last)
  have hparts : splitAtSeparator separator (Bytes.utf8 (name ++ "." ++ ext)) =
      front.map (fun part => Bytes.utf8 (String.ofList part)) ++
        [Bytes.utf8 (String.ofList last ++ "." ++ ext)] := by
    rw [← hlast, String.append_assoc]
    refine (splitAtSeparator_utf8 _ (d := '/') (by decide)).trans ?_
    rw [String.toList_append, hsplit, List.map_append, List.map_singleton]
  obtain ⟨d, hd⟩ := partComponents_concat (front.map fun part => Bytes.utf8 (String.ofList part)) hi
  refine ⟨d, String.ofList last ++ "." ++ ext, ?_, ?_⟩
  · rw [ofText, components_mk, hparts, hd, hname]
  · rw [String.append_assoc, String.toList_append (s := String.ofList last)]
    exact List.suffix_append _ _

section Store

variable {s : Store}

lemma read_of_find? {p : Path} {f : StoredFile} (h : s.find? p = some f) :
    s.read p = .ok f.bytes := by
  rw [Store.read, h]

lemma eq_of_key_eq {ε κ : Type} [LT κ] [Std.Irrefl (α := κ) (· < ·)] {key : ε → κ} {l : List ε}
    (hl : Increasing key l) {x y : ε} (hx : x ∈ l) (hy : y ∈ l) (h : key x = key y) : x = y := by
  induction l with
  | nil => cases hx
  | cons z r ih =>
    obtain ⟨hz, hr⟩ := List.pairwise_cons.1 hl
    rcases List.mem_cons.1 hx with hxz | hx
    · rcases List.mem_cons.1 hy with hyz | hy
      · rw [hxz, hyz]
      · have hlt : key x < key y := hxz ▸ hz y hy
        exact absurd (h ▸ hlt) (Std.Irrefl.irrefl _)
    · rcases List.mem_cons.1 hy with hyz | hy
      · have hlt : key y < key x := hyz ▸ hz x hx
        exact absurd (h ▸ hlt) (Std.Irrefl.irrefl _)
      · exact ih hr hx hy

/-- Files of a store under equivalent paths are the same file. -/
lemma eq_of_equiv {f g : StoredFile} (hf : f ∈ s.files) (hg : g ∈ s.files) (h : f.path ≈ g.path) :
    f = g :=
  eq_of_key_eq s.increasing hf hg (congrArg (List.map Component.key) h)

/-- Among the files of a store, in any order, one under the path is the one that is found. -/
lemma find?_eq_some_of_files {l : List StoredFile} (hl : ∀ f, f ∈ l ↔ f ∈ s.files) {p : Path}
    {f : StoredFile} : l.find? (fun f => f.path ≈ p) = some f ↔ f ∈ s.files ∧ f.path ≈ p := by
  constructor
  · intro h
    exact ⟨(hl f).1 (List.mem_of_find?_eq_some h), by simpa using List.find?_some h⟩
  · rintro ⟨hf, hp⟩
    obtain ⟨g, hg⟩ := Option.isSome_iff_exists.1
      (List.find?_isSome (p := fun f : StoredFile => decide (f.path ≈ p)).2
        ⟨f, (hl f).2 hf, decide_eq_true hp⟩)
    have hgp : g.path ≈ p := by simpa using List.find?_some hg
    rw [hg, eq_of_equiv hf ((hl g).1 (List.mem_of_find?_eq_some hg)) (hp.trans hgp.symm)]

lemma find?_eq_some_iff {p : Path} {f : StoredFile} :
    s.find? p = some f ↔ f ∈ s.files ∧ f.path ≈ p := find?_eq_some_of_files fun _ => Iff.rfl

lemma fileText?_congr {p q : Path} (h : p ≈ q) : p.fileText? = q.fileText? := by
  have hcomponents : p.components = q.components := h
  rw [fileText?, fileText?, fileName?, fileName?, hcomponents]

lemma fileText?_eq_some_iff {p : Path} {leaf : String} :
    p.fileText? = some leaf ↔ ∃ name, p.fileName? = some name ∧ name.shown = leaf :=
  Option.map_eq_some_iff

lemma isArtifact_iff {dir p : Path} {ending : String} : Store.isArtifact dir ending p = true ↔
    ∃ name, p.components = dir.components ++ [.normal name] ∧
      ending.toList <:+ name.shown.toList := by
  simp only [Store.isArtifact, Bool.and_eq_true, Option.any_eq_true,
    decide_eq_true_eq, List.isSuffixOf_iff_suffix]
  constructor
  · rintro ⟨⟨q, hq, hdir⟩, leaf, hleaf, hs⟩
    obtain ⟨name, hname, rfl⟩ := fileText?_eq_some_iff.1 hleaf
    obtain ⟨d, hd⟩ := fileName?_eq_some_iff.1 hname
    obtain ⟨c, -, hc⟩ := components_of_parent? hq
    have hdc : q.components = dir.components := hdir
    rw [← hdc, (List.append_inj' (hc.symm.trans hd) rfl).1]
    exact ⟨name, hd, hs⟩
  · rintro ⟨name, hp, hs⟩
    obtain ⟨q, hq, hdir⟩ := exists_parent? (by simp) hp
    exact ⟨⟨q, hq, hdir⟩, name.shown,
      fileText?_eq_some_iff.2 ⟨name, fileName?_eq_some_iff.2 ⟨_, hp⟩, rfl⟩, hs⟩

lemma artifacts_congr {d e : Path} (h : d.components = e.components) (ext : String) :
    s.artifacts d ext = s.artifacts e ext := by
  refine List.filter_congr fun p _ => Bool.eq_iff_iff.2 ?_
  rw [isArtifact_iff, isArtifact_iff, h]

lemma mem_artifacts_iff {dir p : Path} {ext : String} : p ∈ s.artifacts dir ext ↔
    (∃ f ∈ s.files, f.path = p) ∧ ∃ name, p.components = dir.components ++ [.normal name] ∧
      ("." ++ ext).toList <:+ name.shown.toList := by
  rw [Store.artifacts, List.mem_filter, isArtifact_iff, List.mem_map]

/-- The last of the files in the directory of a path whose name is shown as that of the path. -/
def shownFile? (s : Store) (p : Path) : Option StoredFile :=
  s.files.reverse.find? fun f => f.path.components.dropLast = p.components.dropLast ∧
    f.path.fileText?.isSome ∧ f.path.fileText? = p.fileText?

lemma mem_of_shownFile? {p : Path} {f : StoredFile} (h : shownFile? s p = some f) : f ∈ s.files :=
  List.mem_reverse.1 (List.mem_of_find?_eq_some h)

/-- The listing of a directory has the file name of a path in it under the spelling of the file that
shows as the path. -/
theorem lookup?_artifacts (s : Store) {dir p : Path} {ext leaf : String}
    (hp : p.components = dir.components ++ [.normal (Bytes.utf8 leaf)])
    (hs : ("." ++ ext).toList <:+ leaf.toList) :
    lookup? (s.artifacts dir ext) leaf = (shownFile? s p).map StoredFile.path := by
  have hleaf : p.fileText? = some leaf :=
    fileText?_eq_some_iff.2 ⟨_, fileName?_eq_some_iff.2 ⟨_, hp⟩, shown_utf8 leaf⟩
  rw [lookup?, Store.artifacts, ← List.filter_reverse, ← List.map_reverse, List.find?_filter,
    List.find?_map, shownFile?]
  refine congrArg (Option.map StoredFile.path) (List.find?_congr fun f _ => ?_)
  refine Bool.eq_iff_iff.2 ?_
  simp only [Function.comp_apply, decide_eq_true_eq, isArtifact_iff, hleaf, hp,
    List.dropLast_concat]
  constructor
  · rintro ⟨⟨name, hname, -⟩, hshown⟩
    exact ⟨by rw [hname, List.dropLast_concat], by rw [hshown, Option.isSome_some], hshown⟩
  · rintro ⟨hdir, -, hshown⟩
    obtain ⟨name, hname, rfl⟩ := fileText?_eq_some_iff.1 hshown
    obtain ⟨d, hd⟩ := fileName?_eq_some_iff.1 hname
    rw [hd, List.dropLast_concat] at hdir
    exact ⟨⟨name, hdir ▸ hd, hs⟩, hshown⟩

/-- The names of the files are texts. -/
def TextNames (s : Store) : Prop :=
  ∀ f ∈ s.files, ∀ name, f.path.fileName? = some name → name.isText = true

instance : DecidablePred TextNames := fun s =>
  decidable_of_iff (∀ f ∈ s.files, f.path.fileName?.all Bytes.isText = true)
    (by simp [TextNames, Option.all_eq_true])

/-- Where the names of files are texts, a path that ends in a text shows as the file under it. -/
theorem shownFile?_eq_find? (hnames : TextNames s) {p : Path} {leaf : String}
    (hp : p.fileName? = some (Bytes.utf8 leaf)) : shownFile? s p = s.find? p := by
  have hleaf : p.fileText? = some leaf := fileText?_eq_some_iff.2 ⟨_, hp, shown_utf8 leaf⟩
  obtain ⟨dir, hdir⟩ := fileName?_eq_some_iff.1 hp
  have halike : ∀ f ∈ s.files, f.path.components.dropLast = p.components.dropLast ∧
      f.path.fileText?.isSome ∧ f.path.fileText? = p.fileText? ↔ f.path ≈ p := by
    intro f hf
    constructor
    · rintro ⟨hd, -, hshown⟩
      obtain ⟨name, hname, hnamed⟩ := fileText?_eq_some_iff.1 (hshown.trans hleaf)
      obtain ⟨d, hd'⟩ := fileName?_eq_some_iff.1 hname
      have htext : name = Bytes.utf8 leaf := by
        rw [← hnamed, utf8_shown (hnames f hf name hname)]
      rw [hd', hdir, List.dropLast_concat, List.dropLast_concat] at hd
      change f.path.components = p.components
      rw [hd', hdir, hd, htext]
    · intro hpath
      have hshown : f.path.fileText? = p.fileText? := fileText?_congr hpath
      exact ⟨congrArg List.dropLast hpath, by rw [hshown, hleaf, Option.isSome_some], hshown⟩
  have hlast : shownFile? s p = s.files.reverse.find? fun f => f.path ≈ p :=
    List.find?_congr fun f hf => decide_eq_decide.2 (halike f (List.mem_reverse.1 hf))
  refine Option.ext fun f => ?_
  rw [hlast, find?_eq_some_of_files fun _ => List.mem_reverse, find?_eq_some_iff]

end Store

end WasmBundle.Proofs
