import Mathlib.Data.List.Induction
import Mathlib.Tactic.Lemma
import WasmBundle.Proofs.BinarySections

/-!
# What a written module imports

A module is written as its header and sections, each behind its length: import sections, which hold
entries, and custom sections, which hold anything behind a name. Scanning it gives the namespaces of
its entries without their module prefix, each where it first occurs. How the entries are spread over
sections, what stands between these, and which items are imported make no difference.
-/

namespace WasmBundle.Proofs
open Wasm

inductive BinarySection where
  | imports (entries : List ImportEntry)
  | custom (name : String) (content : Bytes)
  deriving DecidableEq, Repr

namespace BinarySection

def id : BinarySection → UInt8
  | .imports _ => 2
  | .custom _ _ => 0

def body : BinarySection → Bytes
  | .imports entries => grouped entries.length ++ (entries.map ImportEntry.bytes).flatten
  | .custom name content => stringField name ++ content

def bytes (s : BinarySection) : Bytes := s.id :: grouped s.body.length ++ s.body

/-- The section as it stands in a module, its size in the fewest groups. -/
def raw (s : BinarySection) : RawSection := ⟨s.id, grouped s.body.length, s.body⟩

/-- The namespaces of the entries, in order. -/
def spaces : BinarySection → List String
  | .imports entries => entries.map ImportEntry.space
  | .custom _ _ => []

/-- Texts are no longer than a string may be, and the counts and sizes have 32 bits. -/
inductive Fits : BinarySection → Prop
  | imports {entries : List ImportEntry} (texts : ∀ entry ∈ entries, entry.Fits)
      (count : entries.length < UInt32.size) (size : (imports entries).body.length < UInt32.size) :
    Fits (.imports entries)
  | custom {name : String} {content : Bytes} (text : (Bytes.utf8 name).length ≤ Reader.stringLimit)
      (size : (custom name content).body.length < UInt32.size) : Fits (.custom name content)

instance : DecidablePred Fits
  | .imports entries => decidable_of_iff ((∀ entry ∈ entries, entry.Fits) ∧
      entries.length < UInt32.size ∧ (imports entries).body.length < UInt32.size)
      ⟨fun h => .imports h.1 h.2.1 h.2.2, fun | .imports texts count size => ⟨texts, count, size⟩⟩
  | .custom name content => decidable_of_iff ((Bytes.utf8 name).length ≤ Reader.stringLimit ∧
      (custom name content).body.length < UInt32.size)
      ⟨fun h => .custom h.1 h.2, fun | .custom text size => ⟨text, size⟩⟩

lemma Fits.size {s : BinarySection} (h : s.Fits) : s.body.length < UInt32.size := by
  cases h with
  | imports _ _ size => exact size
  | custom _ size => exact size

end BinarySection

/-- The magic bytes and the version of a module. -/
def moduleHeader : Bytes := Wasm.magic ++ [1, 0, 0, 0]

/-- The bytes of a module with the sections. -/
def binary (sections : List BinarySection) : Bytes :=
  moduleHeader ++ (sections.map BinarySection.bytes).flatten

lemma header_moduleHeader (rest : Bytes) :
    Reader.header (.start (moduleHeader ++ rest)) = .ok (.module, ⟨8, rest⟩) :=
  takes_header (1, 0) 0 rest

lemma takes_importEntries {entries : List ImportEntry} (h : ∀ entry ∈ entries, entry.Fits) :
    Takes (Reader.importEntries entries.length) (entries.map ImportEntry.bytes).flatten
      (entries.map ImportEntry.space) := by
  induction entries with
  | nil => exact takes_pure []
  | cons entry entries ih =>
    have hentry := takes_importEntry (h entry List.mem_cons_self)
    have hentries := ih fun e he => h e (List.mem_cons_of_mem _ he)
    exact takes_bind hentry (takes_bind_last hentries (takes_pure _))

lemma importSection_body {entries : List ImportEntry} (texts : ∀ entry ∈ entries, entry.Fits)
    (count : entries.length < UInt32.size) (start : Nat) :
    (Reader.importSection ⟨start, (BinarySection.imports entries).body⟩).map Prod.fst =
      .ok (entries.map ImportEntry.space) := by
  have hcount := takes_u32 count start (entries.map ImportEntry.bytes).flatten
  have hentries := takes_importEntries texts (start + (grouped entries.length).length) []
  rw [List.append_nil] at hentries
  rw [Reader.importSection, BinarySection.body, reader_bind_of_ok hcount,
    reader_bind_of_ok hentries]
  rfl

/-- The body of a section that is written holds its namespaces. -/
theorem namespaces_body {s : BinarySection} (h : s.Fits) (start : Nat) (rest : Bytes) :
    (content .module s.id).namespaces s.body.length ⟨start, s.body ++ rest⟩ = .ok s.spaces := by
  have hhas : (⟨start, s.body ++ rest⟩ : Cursor).has s.body.length = true := by
    rw [Cursor.has_iff, List.length_append]
    exact Nat.le_add_right _ _
  have hwindow : (⟨start, s.body ++ rest⟩ : Cursor).window s.body.length = ⟨start, s.body⟩ := by
    rw [Cursor.window, List.take_left]
  cases h with
  | @imports entries texts count size =>
    have hread := importSection_body texts count start
    simp only [BinarySection.id, content, Content.namespaces, hhas, hwindow, Bool.not_true,
      Bool.false_eq_true, ite_false]
    exact hread
  | @custom name bytes text size =>
    have hread := takes_string text start bytes
    simp only [BinarySection.id, content, Content.namespaces, hhas, hwindow, Bool.not_true,
      Bool.false_eq_true, ite_false]
    rw [BinarySection.body, hread]
    rfl

lemma holds_raw {s : BinarySection} (h : s.Fits) : Holds s.raw s.spaces := by
  have hid : ¬0x80 ≤ s.id ∧ s.id ≠ 10 := by
    cases s with
    | imports entries => exact (by decide : ¬(0x80 : UInt8) ≤ 2 ∧ (2 : UInt8) ≠ 10)
    | custom name content => exact (by decide : ¬(0x80 : UInt8) ≤ 0 ∧ (0 : UInt8) ≠ 10)
  exact ⟨⟨numberField_grouped h.size, length_groups_le 5 _, h.size⟩, hid.1,
    standalone_content hid.2, namespaces_body h⟩

/-- Sections that are written one after another are read one after another. -/
theorem sections_flatten {ss : List BinarySection} (h : ∀ s ∈ ss, s.Fits) (start : Nat) :
    sections .module none ⟨start, (ss.map BinarySection.bytes).flatten⟩ =
      .ok (ss.flatMap BinarySection.spaces) := by
  have hraw : (ss.map BinarySection.bytes).flatten =
      (ss.map BinarySection.raw).flatMap RawSection.bytes := by
    rw [List.flatMap_map, List.flatMap_def]
    rfl
  have hholds : List.Forall₂ Holds (ss.map BinarySection.raw) (ss.map BinarySection.spaces) := by
    rw [List.forall₂_map_left_iff, List.forall₂_map_right_iff, List.forall₂_same]
    exact fun s hs => holds_raw (h s hs)
  rw [hraw, sections_of_holds hholds, List.flatMap_def]

/-- A module imports from the namespaces of its entries, in the order in which they are written. -/
theorem namespaces_binary {ss : List BinarySection} (h : ∀ s ∈ ss, s.Fits) :
    namespaces (binary ss) = .ok (ss.flatMap BinarySection.spaces) := by
  rw [binary, namespaces_of_header (header_moduleHeader _), sections_flatten h]

/-- The name is the namespace, less one module prefix if it begins with it. -/
def Bare (v : Conventions) (space name : String) : Prop :=
  space = v.modulePrefix ++ name ∨ ¬v.modulePrefix.toList <+: space.toList ∧ name = space

/-- The second list has the elements of the first one where they first occur. -/
inductive FirstOccurrences {α : Type} : List α → List α → Prop
  | nil : FirstOccurrences [] []
  | new {l firsts : List α} {a : α} (h : FirstOccurrences l firsts) (ha : a ∉ l) :
    FirstOccurrences (l ++ [a]) (firsts ++ [a])
  | again {l firsts : List α} {a : α} (h : FirstOccurrences l firsts) (ha : a ∈ l) :
    FirstOccurrences (l ++ [a]) firsts

lemma bare_stripPrefix (v : Conventions) (space : String) : Bare v space (v.stripPrefix space) := by
  unfold Conventions.stripPrefix
  by_cases h : v.modulePrefix.toList <+: space.toList
  · rw [if_pos (List.isPrefixOf_iff_prefix.2 h)]
    obtain ⟨rest, hrest⟩ := h
    refine .inl (String.toList_inj.1 ?_)
    rw [String.toList_append, String.toList_ofList, ← hrest, ← String.length_toList,
      List.drop_left]
  · rw [if_neg (mt List.isPrefixOf_iff_prefix.1 h)]
    exact .inr ⟨h, rfl⟩

lemma eraseDups_concat (l : List String) (a : String) :
    (l ++ [a]).eraseDups = l.eraseDups ++ if a ∈ l then [] else [a] := by
  rw [List.eraseDups_append]
  by_cases h : a ∈ l
  · simp [List.removeAll, h]
  · simp [List.removeAll, h, List.eraseDups_cons]

lemma firstOccurrences_eraseDups (l : List String) : FirstOccurrences l l.eraseDups := by
  induction l using List.reverseRecOn with
  | nil => exact .nil
  | append_singleton l a ih =>
    rw [eraseDups_concat]
    by_cases h : a ∈ l
    · rw [if_pos h, List.append_nil]
      exact .again ih h
    · rw [if_neg h]
      exact .new ih h

lemma FirstOccurrences.eq_eraseDups {l firsts : List String} (h : FirstOccurrences l firsts) :
    firsts = l.eraseDups := by
  induction h with
  | nil => rfl
  | new _ ha ih => rw [eraseDups_concat, if_neg ha, ih]
  | again _ ha ih => rw [eraseDups_concat, if_pos ha, List.append_nil, ih]

/-- A module imports the names its entries import from, where they first occur. -/
lemma imports_binary (v : Conventions) {ss : List BinarySection} (h : ∀ s ∈ ss, s.Fits) :
    v.imports (binary ss) =
      .ok ((ss.flatMap BinarySection.spaces).map v.stripPrefix).eraseDups := by
  rw [Conventions.imports, namespaces_binary h]
  rfl

lemma imports_nothing (v : Conventions) : v.imports (binary []) = .ok [] :=
  imports_binary v fun _ h => nomatch h

/-- Scanning a module that is written gives the names its entries import from, each where it first
occurs; a name is the namespace of an entry, less one module prefix. So the result depends on the
namespaces alone, and neither on the other parts of the entries nor on the sections. -/
theorem imports_of_sections (v : Conventions) (ss : List BinarySection) (h : ∀ s ∈ ss, s.Fits) :
    (∃ names, v.imports (binary ss) = .ok names ∧
      FirstOccurrences ((ss.flatMap BinarySection.spaces).map v.stripPrefix) names) ∧
    (∀ space, Bare v space (v.stripPrefix space)) ∧
    ∀ ts : List BinarySection, (∀ t ∈ ts, t.Fits) →
      ts.flatMap BinarySection.spaces = ss.flatMap BinarySection.spaces →
      v.imports (binary ts) = v.imports (binary ss) := by
  refine ⟨⟨_, imports_binary v h, firstOccurrences_eraseDups _⟩, bare_stripPrefix v, ?_⟩
  intro ts ht hspaces
  rw [imports_binary v ht, imports_binary v h, hspaces]

/-- Sections with entries of every kind, one namespace in two spellings and one that is the prefix
alone. -/
def spreadSections : List BinarySection :=
  [.custom "name" [0xff], .imports [⟨"GRAIN$MODULE$a", "f", .function 300⟩, ⟨"env", "", .memory 1⟩],
    .custom "" [], .imports [], .imports [⟨"a", "é", .global .f64 true⟩,
      ⟨"GRAIN$MODULE$", "g", .function 0⟩, ⟨"env", "x", .global .i32 false⟩]]

theorem imports_of_sections_spread : (∀ s ∈ spreadSections, s.Fits) ∧
    ({} : Conventions).imports (binary spreadSections) = .ok ["a", "env", ""] := by
  have hfits : ∀ s ∈ spreadSections, s.Fits := by decide
  obtain ⟨⟨names, himports, hfirst⟩, -, -⟩ := imports_of_sections {} spreadSections hfits
  refine ⟨hfits, ?_⟩
  have hnames : ((spreadSections.flatMap BinarySection.spaces).map
      ({} : Conventions).stripPrefix).eraseDups = ["a", "env", ""] := by decide
  rw [himports, hfirst.eq_eraseDups, hnames]

end WasmBundle.Proofs
