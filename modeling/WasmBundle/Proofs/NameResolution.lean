import Mathlib.Tactic.Lemma
import WasmBundle.Resolver

/-!
# Resolution of names

A probing resolver asks for the candidate of each root, in order, until one is a file. It answers
with that candidate and is itself unchanged, so what it finds depends on the source alone. An
indexing resolver looks for a file name in the listing of each root, in order, until one has it or
cannot be read. It asks for listings only, and all that changes about it are the listings it keeps.
-/

namespace WasmBundle.Proofs

/-- Where probing looks for an import name: one candidate a root. -/
def candidates (searchPath : SearchPath) (extension name : String) : List Path :=
  searchPath.roots.map fun root => root.join (.ofText (name ++ "." ++ extension))

/-- The elements up to the first that satisfies `p`, which is included. -/
def throughFirst {α : Type} (p : α → Bool) : List α → List α
  | [] => []
  | a :: l => if p a then [a] else a :: throughFirst p l

section ThroughFirst

variable {α β : Type} {p : α → Bool} {l : List α}

lemma throughFirst_map (f : α → β) (q : β → Bool) (l : List α) :
    throughFirst q (l.map f) = (throughFirst (q ∘ f) l).map f := by
  induction l with
  | nil => rfl
  | cons a l ih =>
    by_cases h : q (f a) = true
    · simp [throughFirst, h]
    · simp [throughFirst, h, ih]

lemma throughFirst_isPrefix (p : α → Bool) (l : List α) : throughFirst p l <+: l := by
  induction l with
  | nil => exact List.prefix_refl []
  | cons a l ih =>
    unfold throughFirst
    split
    · exact ⟨l, rfl⟩
    · exact (List.prefix_cons_inj a).2 ih

lemma throughFirst_of_none (h : l.find? p = none) :
    throughFirst p l = l := by
  induction l with
  | nil => rfl
  | cons a l ih =>
    by_cases ha : p a = true
    · rw [List.find?_cons_of_pos ha] at h
      cases h
    · rw [List.find?_cons_of_neg ha] at h
      rw [throughFirst, if_neg ha, ih h]

lemma throughFirst_of_some {a : α} (h : l.find? p = some a) :
    ∃ front, throughFirst p l = front ++ [a] ∧ ∀ b ∈ front, p b = false := by
  induction l with
  | nil => cases h
  | cons b l ih =>
    by_cases hb : p b = true
    · rw [List.find?_cons_of_pos hb] at h
      cases h
      exact ⟨[], by rw [throughFirst, if_pos hb, List.nil_append], by simp⟩
    · rw [List.find?_cons_of_neg hb] at h
      obtain ⟨front, hfront, hnone⟩ := ih h
      refine ⟨b :: front, by rw [throughFirst, if_neg hb, hfront, List.cons_append], ?_⟩
      intro c hc
      rcases List.mem_cons.1 hc with rfl | hc
      · exact Bool.eq_false_iff.2 hb
      · exact hnone c hc

lemma throughFirst_append {a : α} (h : l.find? p = some a) (m : List α) :
    throughFirst p (l ++ m) = throughFirst p l := by
  induction l with
  | nil => cases h
  | cons b l ih =>
    by_cases hb : p b = true
    · rw [List.cons_append, throughFirst, throughFirst, if_pos hb, if_pos hb]
    · rw [List.find?_cons_of_neg hb] at h
      rw [List.cons_append, throughFirst, throughFirst, if_neg hb, if_neg hb, ih h]

/-- Tests that agree up to the first hit have the same first hit. -/
lemma throughFirst_congr {q : α → Bool} (h : ∀ a ∈ throughFirst p l, q a = p a) :
    throughFirst q l = throughFirst p l ∧ l.find? q = l.find? p := by
  induction l with
  | nil => exact ⟨rfl, rfl⟩
  | cons a l ih =>
    by_cases hp : p a = true
    · have hq : q a = true := by rw [h a (by simp [throughFirst, hp]), hp]
      exact ⟨by simp [throughFirst, hp, hq], by simp [hp, hq]⟩
    · have hq : ¬q a = true := by rw [h a (by simp [throughFirst, hp])]; exact hp
      obtain ⟨hthrough, hfind⟩ := ih fun b hb => h b (by simp [throughFirst, hp, hb])
      rw [throughFirst, throughFirst, if_neg hp, if_neg hq, hthrough, List.find?_cons_of_neg hp,
        List.find?_cons_of_neg hq, hfind]
      exact ⟨rfl, rfl⟩

end ThroughFirst

/-- The path stands at position `k` of the candidates and is the first of them that is a file. -/
structure FirstFile (src : FileSource) (paths : List Path) (k : Nat) (path : Path) : Prop where
  at_position : paths[k]? = some path
  isFile : src.isFile path = true
  earlier : ∀ p ∈ paths.take k, src.isFile p = false

lemma probeRoots_eq (src : FileSource) (file : Path) (roots : List Path) :
    Resolver.probeRoots src file roots =
      ((roots.map fun root => root.join file).find? src.isFile,
        (throughFirst src.isFile (roots.map fun root => root.join file)).map .probe) := by
  induction roots with
  | nil => rfl
  | cons root roots ih =>
    by_cases h : src.isFile (root.join file) = true
    · simp [Resolver.probeRoots, throughFirst, h]
    · simp [Resolver.probeRoots, throughFirst, h, ih]

theorem resolve_probe (src : FileSource) {r : Resolver} (h : r.strategy = .probe) (name : String) :
    r.resolve src name =
      ⟨.ok ((candidates r.searchPath r.extension name).find? src.isFile), r,
        (throughFirst src.isFile (candidates r.searchPath r.extension name)).map .probe⟩ := by
  simp only [Resolver.resolve, h, probeRoots_eq]
  rfl

theorem exists_firstFile {src : FileSource} {paths : List Path} {path : Path}
    (h : paths.find? src.isFile = some path) :
    ∃ k, FirstFile src paths k path ∧ throughFirst src.isFile paths = paths.take (k + 1) := by
  obtain ⟨front, hfront, hmissing⟩ := throughFirst_of_some h
  obtain ⟨rest, hrest⟩ := throughFirst_isPrefix src.isFile paths
  have hsplit : paths = front ++ path :: rest := by
    rw [← hrest, hfront, List.append_assoc, List.singleton_append]
  have hlength : front.length + 1 = (front ++ [path]).length := by
    rw [List.length_append, List.length_singleton]
  refine ⟨front.length, ⟨?_, List.find?_some h, ?_⟩, ?_⟩
  · rw [hsplit, List.getElem?_append_right (Nat.le_refl _), Nat.sub_self, List.getElem?_cons_zero]
  · rw [hsplit, List.take_left]
    exact hmissing
  · rw [hfront, hlength, ← hrest, hfront, List.take_left]

variable {src : FileSource} {sub : Path} {leaf : String} {r : Resolver} {position : Nat}
  {root : Path}
  {roots : List Path}

lemma lookupRoots_of_error {e : ListingFailure}
    (hl : (Resolver.listing src r position root sub).answer = .error e) :
    Resolver.lookupRoots src sub leaf r position (root :: roots) =
      ⟨.error e, (Resolver.listing src r position root sub).resolver,
        (Resolver.listing src r position root sub).trace⟩ := by
  simp only [Resolver.lookupRoots, hl]

lemma lookupRoots_of_found {paths : List Path} {path : Path}
    (hl : (Resolver.listing src r position root sub).answer = .ok paths)
    (hf : Resolver.lookup? paths leaf = some path) :
    Resolver.lookupRoots src sub leaf r position (root :: roots) =
      ⟨.ok (some path), (Resolver.listing src r position root sub).resolver,
        (Resolver.listing src r position root sub).trace⟩ := by
  simp only [Resolver.lookupRoots, hl, hf]

/-- After a root that does not have the file the next one is searched. -/
lemma lookupRoots_of_missing {paths : List Path}
    (hl : (Resolver.listing src r position root sub).answer = .ok paths)
    (hf : Resolver.lookup? paths leaf = none) :
    Resolver.lookupRoots src sub leaf r position (root :: roots) =
      { Resolver.lookupRoots src sub leaf (Resolver.listing src r position root sub).resolver
          (position + 1) roots with
        trace := (Resolver.listing src r position root sub).trace ++
          (Resolver.lookupRoots src sub leaf (Resolver.listing src r position root sub).resolver
            (position + 1) roots).trace } := by
  simp only [Resolver.lookupRoots, hl, hf]

lemma listing_of_mem_trace {c : Consultation}
    (h : c ∈ (Resolver.listing src r position root sub).trace) : ∃ dir, c = .listing dir := by
  simp only [Resolver.listing] at h
  split at h
  · cases h
  · split at h <;> exact ⟨_, List.mem_singleton.1 h⟩

/-- Only listings are asked for. -/
theorem listing_of_mem_lookupRoots {c : Consultation}
    (h : c ∈ (Resolver.lookupRoots src sub leaf r position roots).trace) :
    ∃ dir, c = .listing dir := by
  induction roots generalizing r position with
  | nil => cases h
  | cons root roots ih =>
    cases hl : (Resolver.listing src r position root sub).answer with
    | error e =>
      rw [lookupRoots_of_error hl] at h
      exact listing_of_mem_trace h
    | ok paths =>
      cases hf : Resolver.lookup? paths leaf with
      | some path =>
        rw [lookupRoots_of_found hl hf] at h
        exact listing_of_mem_trace h
      | none =>
        rw [lookupRoots_of_missing hl hf] at h
        exact (List.mem_append.1 h).elim listing_of_mem_trace ih

lemma exists_index_listing (src : FileSource) (r : Resolver) (position : Nat) (root sub : Path) :
    ∃ index, (Resolver.listing src r position root sub).resolver = { r with index } := by
  simp only [Resolver.listing]
  split
  · exact ⟨r.index, rfl⟩
  · split
    · exact ⟨r.index, rfl⟩
    · exact ⟨_, rfl⟩

/-- The resolver keeps everything but its listings. -/
theorem exists_index_lookupRoots (src : FileSource) (sub : Path) (leaf : String) (r : Resolver)
    (position : Nat) (roots : List Path) :
    ∃ index, (Resolver.lookupRoots src sub leaf r position roots).resolver = { r with index } := by
  induction roots generalizing r position with
  | nil => exact ⟨r.index, rfl⟩
  | cons root roots ih =>
    obtain ⟨index, hhere⟩ := exists_index_listing src r position root sub
    cases hl : (Resolver.listing src r position root sub).answer with
    | error e => exact ⟨index, by rw [lookupRoots_of_error hl, hhere]⟩
    | ok paths =>
      cases hf : Resolver.lookup? paths leaf with
      | some path => exact ⟨index, by rw [lookupRoots_of_found hl hf, hhere]⟩
      | none =>
        obtain ⟨index', hlater⟩ := ih { r with index } (position + 1)
        refine ⟨index', ?_⟩
        rw [lookupRoots_of_missing hl hf, hhere]
        exact hlater

/-- An indexing resolver looks the file name up in the directory that the import name gives. -/
theorem resolve_eq_lookupRoots (src : FileSource) (h : r.strategy = .index) (name : String) :
    r.resolve src name = Resolver.lookupRoots src
      ((Path.ofText (r.artifactFileName name)).parent?.getD "")
      ((Path.ofText (r.artifactFileName name)).fileText?.getD "") r 0 r.searchPath.roots := by
  simp only [Resolver.resolve, h]

/-- Under either strategy a resolver keeps everything but its listings. -/
theorem exists_index_resolve (src : FileSource) (r : Resolver) (name : String) :
    ∃ index, (r.resolve src name).resolver = { r with index } := by
  cases hr : r.strategy with
  | probe =>
    rw [resolve_probe src hr, ← hr]
    exact ⟨r.index, rfl⟩
  | index =>
    rw [resolve_eq_lookupRoots src hr, ← hr]
    exact exists_index_lookupRoots ..

end WasmBundle.Proofs
