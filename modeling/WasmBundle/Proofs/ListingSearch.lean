import Mathlib.Data.List.Nodup
import WasmBundle.Proofs.NameResolution

/-!
# Searches in earlier listings

A search looks for a file name root by root and knows of the past only which listings were asked for
and what was answered: it uses the first successful listing of a shelf, and asks for one where there
is none. An indexing resolver whose index holds the first successful listings answers as the search
does, asks the same questions, and holds the first successful listings again afterwards.
-/

namespace WasmBundle.Proofs

/-- A listing that was asked for and the answer to it. -/
structure Query where
  shelf : Shelf
  dir : Path
  answer : Except IoError (List Path)

/-- What the first successful listing of a shelf was. -/
def firstListing (log : List Query) (shelf : Shelf) : Option (List Path) :=
  log.findSome? fun a => if a.shelf = shelf then a.answer.toOption else none

lemma firstListing_append (l m : List Query) (shelf : Shelf) :
    firstListing (l ++ m) shelf = (firstListing l shelf).or (firstListing m shelf) :=
  List.findSome?_append

lemma firstListing_singleton (a : Query) (shelf : Shelf) :
    firstListing [a] shelf = if a.shelf = shelf then a.answer.toOption else none :=
  List.findSome?_singleton

lemma exists_of_firstListing {log : List Query} {shelf : Shelf} {paths : List Path}
    (h : firstListing log shelf = some paths) :
    ∃ a ∈ log, a.shelf = shelf ∧ a.answer = .ok paths := by
  obtain ⟨a, ha, hpaths⟩ := List.exists_of_findSome?_eq_some h
  by_cases hshelf : a.shelf = shelf
  · rw [if_pos hshelf] at hpaths
    refine ⟨a, ha, hshelf, ?_⟩
    cases hanswer : a.answer with
    | error e =>
      rw [hanswer] at hpaths
      cases hpaths
    | ok paths' =>
      rw [hanswer] at hpaths
      cases hpaths
      rfl
  · rw [if_neg hshelf] at hpaths
    cases hpaths

lemma shelf_ne_of_firstListing {log : List Query} {shelf : Shelf}
    (h : firstListing log shelf = none) {a : Query} (ha : a ∈ log) (hok : a.answer.isOk = true) :
    a.shelf ≠ shelf := by
  intro hshelf
  have hnone := List.findSome?_eq_none_iff.1 h a ha
  rw [if_pos hshelf] at hnone
  cases hanswer : a.answer with
  | error e =>
    rw [hanswer] at hok
    cases hok
  | ok paths =>
    rw [hanswer] at hnone
    cases hnone

/-- A file name that is looked for below roots, after the listings of a log. -/
structure Search where
  source : FileSource
  extension : String
  log : List Query
  subdirectory : Path
  leaf : String

namespace Search

variable (q : Search)

def shelf (position : Nat) : Shelf := ⟨position, q.subdirectory.components⟩

def directory (root : Path) : Path :=
  if q.subdirectory.isEmpty then root else root.join q.subdirectory

/-- The listing to ask for at a root and its position, with what the source answers now. -/
def question (place : Path × Nat) : Query where
  shelf := q.shelf place.2
  dir := q.directory place.1
  answer := q.source.artifacts (q.directory place.1) q.extension

/-- The first successful listing of the root, or else what the source answers now. -/
def listing (place : Path × Nat) : Except IoError (List Path) :=
  match firstListing q.log (q.shelf place.2) with
  | some paths => .ok paths
  | none => (q.question place).answer

/-- What the search ends with at a root, where it ends there. -/
def verdict? (place : Path × Nat) : Option (Except ListingFailure (Option Path)) :=
  match q.listing place with
  | .error e => some (.error ⟨q.directory place.1, e⟩)
  | .ok paths => (Resolver.lookup? paths q.leaf).map fun path => .ok (some path)

/-- The verdict at the first root that has one. -/
def answer (places : List (Path × Nat)) : Except ListingFailure (Option Path) :=
  (places.findSome? q.verdict?).getD (.ok none)

/-- The roots that are gone through, up to the first with a verdict. -/
def visited (places : List (Path × Nat)) : List (Path × Nat) :=
  throughFirst (fun place => (q.verdict? place).isSome) places

/-- The listings asked for, one for each root gone through that was not listed before. -/
def questions (places : List (Path × Nat)) : List Query :=
  ((q.visited places).filter fun place => (firstListing q.log (q.shelf place.2)).isNone).map
    q.question

end Search

section Places

variable {q : Search} {place : Path × Nat} {places : List (Path × Nat)}

lemma answer_cons_of_some {verdict : Except ListingFailure (Option Path)}
    (h : q.verdict? place = some verdict) : q.answer (place :: places) = verdict := by
  rw [Search.answer, List.findSome?_cons, h, Option.getD_some]

lemma answer_cons_of_none (h : q.verdict? place = none) :
    q.answer (place :: places) = q.answer places := by
  rw [Search.answer, List.findSome?_cons, h, Search.answer]

lemma answer_congr {q' : Search}
    (hverdict : ∀ place ∈ places, q.verdict? place = q'.verdict? place) :
    q.answer places = q'.answer places := by
  induction places with
  | nil => rfl
  | cons place places ih =>
    have hlater := ih fun p hp => hverdict p (List.mem_cons_of_mem _ hp)
    have hhere := hverdict place List.mem_cons_self
    cases hv : q'.verdict? place with
    | some verdict => rw [answer_cons_of_some (hhere.trans hv), answer_cons_of_some hv]
    | none => rw [answer_cons_of_none (hhere.trans hv), answer_cons_of_none hv, hlater]

lemma questions_cons_of_some (places : List (Path × Nat))
    (h : (q.verdict? place).isSome = true) :
    q.questions (place :: places) = q.questions [place] := by
  simp only [Search.questions, Search.visited, throughFirst, h, if_true]

lemma questions_cons_of_none (places : List (Path × Nat)) (h : q.verdict? place = none) :
    q.questions (place :: places) = q.questions [place] ++ q.questions places := by
  simp only [Search.questions, Search.visited, throughFirst, h, Option.isSome_none, if_false,
    Bool.false_eq_true, ← List.map_append, ← List.filter_append, List.singleton_append]

lemma questions_singleton : q.questions [place] =
    if (firstListing q.log (q.shelf place.2)).isNone then [q.question place] else [] := by
  have hvisited : q.visited [place] = [place] := by
    simp only [Search.visited, throughFirst, ite_self]
  rw [Search.questions, hvisited]
  split <;> rename_i h <;> simp [h]

lemma mem_questions_iff {a : Query} : a ∈ q.questions places ↔
    ∃ place ∈ q.visited places, firstListing q.log (q.shelf place.2) = none ∧
      q.question place = a := by
  simp only [Search.questions, List.mem_map, List.mem_filter, Option.isNone_iff_eq_none, and_assoc]

lemma firstListing_of_mem_questions {a : Query} (h : a ∈ q.questions places) :
    firstListing q.log a.shelf = none := by
  obtain ⟨place, -, hnone, rfl⟩ := mem_questions_iff.1 h
  exact hnone

/-- No shelf is asked for twice, roots in different positions having different shelves. -/
lemma nodup_questions (roots : List Path) (position : Nat) :
    ((q.questions (roots.zipIdx position)).map Query.shelf).Nodup := by
  have hpositions : ((roots.zipIdx position).map Prod.snd).Nodup := by
    rw [List.zipIdx_map_snd]
    exact List.nodup_range'
  have hshelves : (q.questions (roots.zipIdx position)).map Query.shelf =
      (((q.visited (roots.zipIdx position)).filter fun place =>
        (firstListing q.log (q.shelf place.2)).isNone).map Prod.snd).map q.shelf := by
    rw [Search.questions, List.map_map, List.map_map]
    rfl
  have hvisited : (q.visited (roots.zipIdx position)).Sublist (roots.zipIdx position) :=
    (throughFirst_isPrefix _ _).sublist
  rw [hshelves]
  refine List.Nodup.map (fun k l hkl => congrArg Shelf.position hkl) ?_
  exact hpositions.sublist ((List.filter_sublist.trans hvisited).map _)

/-- A search asks for no shelf that was listed successfully before it. -/
lemma once_append (q : Search) (hlog : ((q.log.filter (·.answer.isOk)).map Query.shelf).Nodup)
    (roots : List Path) :
    (((q.log ++ q.questions roots.zipIdx).filter (·.answer.isOk)).map Query.shelf).Nodup := by
  rw [List.filter_append, List.map_append]
  refine List.nodup_append.2 ⟨hlog, ?_, ?_⟩
  · exact (nodup_questions roots 0).sublist (List.filter_sublist.map _)
  · intro shelf hold shelf' hnew
    obtain ⟨a, ha, rfl⟩ := List.mem_map.1 hold
    obtain ⟨b, hb, rfl⟩ := List.mem_map.1 hnew
    obtain ⟨hmem, hok⟩ := List.mem_filter.1 ha
    have hfirst := firstListing_of_mem_questions (List.mem_filter.1 hb).1
    exact shelf_ne_of_firstListing hfirst hmem hok

end Places

section Listing

variable {src : FileSource} {r : Resolver} {position : Nat} {root sub : Path}

lemma listing_of_known {paths : List Path}
    (h : r.index.lookup ⟨position, sub.components⟩ = some paths) (src : FileSource) (root : Path) :
    Resolver.listing src r position root sub = ⟨.ok paths, r, []⟩ := by
  simp only [Resolver.listing, h]

/-- A failed listing leaves the resolver as it is. -/
theorem listing_of_error {f : ListingFailure}
    (h : (Resolver.listing src r position root sub).answer = .error f) :
    Resolver.listing src r position root sub = ⟨.error f, r, [.listing f.dir]⟩ ∧
      r.index.lookup ⟨position, sub.components⟩ = none ∧
      f.dir = if sub.isEmpty then root else root.join sub := by
  unfold Resolver.listing at h ⊢
  dsimp only at h ⊢
  split at h
  · cases h
  · split at h
    · cases h
      exact ⟨rfl, by assumption, rfl⟩
    · cases h

lemma lookup_of_listing {paths : List Path}
    (h : (Resolver.listing src r position root sub).answer = .ok paths) :
    (Resolver.listing src r position root sub).resolver.index.lookup ⟨position, sub.components⟩ =
      some paths := by
  unfold Resolver.listing at h ⊢
  dsimp only at h ⊢
  split at h
  · cases h
    assumption
  · split at h
    · cases h
    · cases h
      exact List.lookup_cons_self

lemma lookup_of_lookup_listing (src : FileSource) (position : Nat) (root sub : Path) {shelf : Shelf}
    {paths : List Path} (h : r.index.lookup shelf = some paths) :
    (Resolver.listing src r position root sub).resolver.index.lookup shelf = some paths := by
  unfold Resolver.listing
  dsimp only
  split
  · exact h
  · rename_i hnone
    split
    · exact h
    · have hne : (shelf == (⟨position, sub.components⟩ : Shelf)) = false := by
        refine beq_eq_false_iff_ne.2 fun hshelf => ?_
        rw [hshelf, hnone] at h
        cases h
      rw [List.lookup_cons, hne]
      exact h

lemma lookup_of_lookup_lookupRoots (src : FileSource) (sub : Path) (leaf : String) (position : Nat)
    (roots : List Path) {shelf : Shelf} {paths : List Path}
    (h : r.index.lookup shelf = some paths) :
    (Resolver.lookupRoots src sub leaf r position roots).resolver.index.lookup shelf =
      some paths := by
  induction roots generalizing r position with
  | nil => exact h
  | cons root roots ih =>
    have hhere := lookup_of_lookup_listing src position root sub h
    cases hl : (Resolver.listing src r position root sub).answer with
    | error f =>
      rw [lookupRoots_of_error hl]
      exact hhere
    | ok listed =>
      cases hf : Resolver.lookup? listed leaf with
      | some path =>
        rw [lookupRoots_of_found hl hf]
        exact hhere
      | none =>
        rw [lookupRoots_of_missing hl hf]
        exact ih (position + 1) hhere

end Listing

section Failure

variable {src : FileSource} {sub : Path} {leaf : String} {r : Resolver} {position : Nat}
  {roots : List Path}

/-- A root without a listing is asked for one before anything else. -/
lemma exists_trace_of_unlisted (src : FileSource) (leaf : String) (root : Path) (roots : List Path)
    (hnone : r.index.lookup ⟨position, sub.components⟩ = none) :
    ∃ later, (Resolver.lookupRoots src sub leaf r position (root :: roots)).trace =
      .listing (if sub.isEmpty then root else root.join sub) :: later := by
  have hhere : (Resolver.listing src r position root sub).trace =
      [.listing (if sub.isEmpty then root else root.join sub)] := by
    simp only [Resolver.listing, hnone]
    split <;> rfl
  cases hl : (Resolver.listing src r position root sub).answer with
  | error f =>
    rw [lookupRoots_of_error hl]
    exact ⟨[], hhere⟩
  | ok paths =>
    cases hf : Resolver.lookup? paths leaf with
    | some path =>
      rw [lookupRoots_of_found hl hf]
      exact ⟨[], hhere⟩
    | none =>
      rw [lookupRoots_of_missing hl hf, hhere]
      exact ⟨_, rfl⟩

/-- The directory that could not be listed is the first that the same lookup asks for again,
whatever source it is then. -/
theorem lookupRoots_again {f : ListingFailure}
    (h : (Resolver.lookupRoots src sub leaf r position roots).answer = .error f)
    (src' : FileSource) :
    ∃ later, (Resolver.lookupRoots src' sub leaf
      (Resolver.lookupRoots src sub leaf r position roots).resolver position roots).trace =
        .listing f.dir :: later := by
  induction roots generalizing r position with
  | nil => cases h
  | cons root roots ih =>
    cases hl : (Resolver.listing src r position root sub).answer with
    | error e =>
      obtain ⟨hhere, hnone, hdir⟩ := listing_of_error hl
      rw [lookupRoots_of_error hl] at h ⊢
      cases h
      rw [hhere, hdir]
      exact exists_trace_of_unlisted src' leaf root roots hnone
    | ok paths =>
      cases hf : Resolver.lookup? paths leaf with
      | some path =>
        rw [lookupRoots_of_found hl hf] at h
        cases h
      | none =>
        rw [lookupRoots_of_missing hl hf] at h ⊢
        obtain ⟨later, hlater⟩ := ih h
        -- The listing of this root is kept, so it is not asked for and the next root comes first.
        have hknown := listing_of_known
          (lookup_of_lookup_lookupRoots src sub leaf (position + 1) roots (lookup_of_listing hl))
          src' root
        have hhere := congrArg Lookup.answer hknown
        refine ⟨later, ?_⟩
        rw [lookupRoots_of_missing hhere hf, hknown]
        exact hlater

end Failure

/-- A lookup that started with a resolver asked the questions of a search, and holds the listings it
had and those that the search got. -/
structure Serves {α : Type} (q : Search) (r : Resolver) (places : List (Path × Nat))
    (found : Lookup α) : Prop where
  trace : found.trace = (q.questions places).map fun a => .listing a.dir
  index : ∀ shelf, found.resolver.index.lookup shelf =
    (r.index.lookup shelf).or (firstListing (q.questions places) shelf)

variable {q : Search} {r : Resolver} {position : Nat}

section Serves

variable {α β : Type} {place : Path × Nat} {places : List (Path × Nat)} {here : Lookup α}

lemma Serves.stop (h : Serves q r [place] here) (hverdict : (q.verdict? place).isSome = true)
    (answer : Except ListingFailure β) :
    Serves q r (place :: places) ⟨answer, here.resolver, here.trace⟩ := by
  have hquestions := questions_cons_of_some places hverdict
  refine ⟨?_, fun shelf => ?_⟩
  · rw [hquestions]
    exact h.trace
  · rw [hquestions]
    exact h.index shelf

lemma Serves.goOn {later : Lookup β} (h : Serves q r [place] here)
    (hverdict : q.verdict? place = none) (hlater : Serves q here.resolver places later) :
    Serves q r (place :: places) { later with trace := here.trace ++ later.trace } := by
  have hquestions := questions_cons_of_none places hverdict
  refine ⟨?_, fun shelf => ?_⟩
  · rw [hquestions, List.map_append, ← h.trace, ← hlater.trace]
  · rw [hquestions, firstListing_append, ← Option.or_assoc, ← h.index]
    exact hlater.index shelf

end Serves

lemma listing_serves (hext : r.extension = q.extension)
    (hindex : r.index.lookup (q.shelf position) = firstListing q.log (q.shelf position))
    (root : Path) :
    (Resolver.listing q.source r position root q.subdirectory).answer =
        (q.listing (root, position)).mapError (ListingFailure.mk (q.directory root)) ∧
      Serves q r [(root, position)]
        (Resolver.listing q.source r position root q.subdirectory) := by
  cases hfirst : firstListing q.log (q.shelf position) with
  | some paths =>
    have hknown := listing_of_known (hindex.trans hfirst) q.source root
    have hquestions : q.questions [(root, position)] = [] := by
      rw [questions_singleton, hfirst]
      rfl
    have hlisting : q.listing (root, position) = .ok paths := by
      simp only [Search.listing, hfirst]
    rw [hknown, hlisting]
    refine ⟨rfl, ?_, fun shelf => ?_⟩
    · rw [hquestions]
      rfl
    · rw [hquestions]
      exact Option.or_none.symm
  | none =>
    have hunknown : r.index.lookup ⟨position, q.subdirectory.components⟩ = none :=
      hindex.trans hfirst
    have hquestions : q.questions [(root, position)] = [q.question (root, position)] := by
      rw [questions_singleton, hfirst]
      rfl
    have hlisting : q.listing (root, position) = (q.question (root, position)).answer := by
      simp only [Search.listing, hfirst]
    rw [hlisting]
    cases hanswer : (q.question (root, position)).answer with
    | error e =>
      have hart : q.source.artifacts
          (if q.subdirectory.isEmpty then root else root.join q.subdirectory) r.extension =
            .error e := hext ▸ hanswer
      have hhere : Resolver.listing q.source r position root q.subdirectory =
          ⟨.error ⟨q.directory root, e⟩, r, [.listing (q.directory root)]⟩ := by
        simp only [Resolver.listing, hunknown, hart]
        rfl
      rw [hhere]
      refine ⟨rfl, ?_, fun shelf => ?_⟩
      · rw [hquestions]
        rfl
      · rw [hquestions, firstListing_singleton, hanswer]
        exact (Option.or_eq_left_of_none (ite_self none)).symm
    | ok paths =>
      have hart : q.source.artifacts
          (if q.subdirectory.isEmpty then root else root.join q.subdirectory) r.extension =
            .ok paths := hext ▸ hanswer
      have hhere : Resolver.listing q.source r position root q.subdirectory =
          ⟨.ok paths, { r with index := (q.shelf position, paths) :: r.index },
            [.listing (q.directory root)]⟩ := by
        simp only [Resolver.listing, hunknown, hart]
        rfl
      rw [hhere]
      refine ⟨rfl, ?_, fun shelf => ?_⟩
      · rw [hquestions]
        rfl
      · rw [hquestions, firstListing_singleton, hanswer, List.lookup_cons]
        by_cases hshelf : q.shelf position = shelf
        · subst hshelf
          rw [beq_self_eq_true, show r.index.lookup (q.shelf position) = none from hunknown]
          exact (if_pos rfl).symm
        · rw [beq_eq_false_iff_ne.2 (Ne.symm hshelf)]
          exact (Option.or_eq_left_of_none (if_neg hshelf)).symm

lemma firstListing_questions_of_ne (q : Search) (root : Path) {k : Nat} (h : position ≠ k) :
    firstListing (q.questions [(root, position)]) (q.shelf k) = none := by
  rw [questions_singleton]
  split
  · rw [firstListing_singleton]
    exact if_neg fun hshelf => h (congrArg Shelf.position hshelf)
  · rfl

/-- A lookup answers as the search does, if the resolver holds the first successful listings of the
roots from its position on. -/
theorem lookupRoots_serves (hext : r.extension = q.extension)
    (hindex : ∀ k ≥ position, r.index.lookup (q.shelf k) = firstListing q.log (q.shelf k))
    (roots : List Path) :
    (Resolver.lookupRoots q.source q.subdirectory q.leaf r position roots).answer =
        q.answer (roots.zipIdx position) ∧
      Serves q r (roots.zipIdx position)
        (Resolver.lookupRoots q.source q.subdirectory q.leaf r position roots) := by
  induction roots generalizing r position with
  | nil => exact ⟨rfl, rfl, fun shelf => Option.or_none.symm⟩
  | cons root roots ih =>
    obtain ⟨hanswer, hserves⟩ := listing_serves hext (hindex position (Nat.le_refl position)) root
    rw [List.zipIdx_cons]
    cases hl : q.listing (root, position) with
    | error e =>
      rw [hl] at hanswer
      have hverdict : q.verdict? (root, position) = some (.error ⟨q.directory root, e⟩) := by
        simp only [Search.verdict?, hl]
      rw [lookupRoots_of_error hanswer, answer_cons_of_some hverdict]
      exact ⟨rfl, hserves.stop (Option.isSome_of_eq_some hverdict) _⟩
    | ok paths =>
      rw [hl] at hanswer
      cases hf : Resolver.lookup? paths q.leaf with
      | some path =>
        have hverdict : q.verdict? (root, position) = some (.ok (some path)) := by
          simp only [Search.verdict?, hl, hf, Option.map_some]
        rw [lookupRoots_of_found hanswer hf, answer_cons_of_some hverdict]
        exact ⟨rfl, hserves.stop (Option.isSome_of_eq_some hverdict) _⟩
      | none =>
        have hverdict : q.verdict? (root, position) = none := by
          simp only [Search.verdict?, hl, hf, Option.map_none]
        obtain ⟨index, hkept⟩ := exists_index_listing q.source r position root q.subdirectory
        have hext' : (Resolver.listing q.source r position root q.subdirectory).resolver.extension =
            q.extension := by rw [hkept, hext]
        have hindex' : ∀ k ≥ position + 1,
            (Resolver.listing q.source r position root q.subdirectory).resolver.index.lookup
              (q.shelf k) = firstListing q.log (q.shelf k) := by
          intro k hk
          rw [hserves.index, firstListing_questions_of_ne q root (by omega), Option.or_none]
          exact hindex k (by omega)
        obtain ⟨hlater, hserved⟩ := ih hext' hindex'
        rw [lookupRoots_of_missing hanswer hf, answer_cons_of_none hverdict]
        exact ⟨hlater, hserves.goOn hverdict hserved⟩

end WasmBundle.Proofs
