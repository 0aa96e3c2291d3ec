import WasmBundle.Proofs.ListingSearch
import WasmBundle.Proofs.StoreViews

/-!
# The index as a snapshot

A resolver is used over a file system that files are put into, under one strategy and then under
another. Its history is kept without an index: which listings were asked for, when, and what was
answered. At all times the index holds the first successful listing of each shelf, so the resolver
answers as a search after the listings of the history does, and asks what that search asks.
-/

namespace WasmBundle.Proofs

/-- A file system that files are put into. How a directory is spelled makes no difference to its
listing, whether the listing fails or not. -/
structure FileSystem (σ : Type) where
  source : σ → FileSource
  insert : σ → Path → Bytes → σ
  artifacts_congr : ∀ (files : σ) {d e : Path}, d ≈ e → ∀ extension,
    (source files).artifacts d extension = (source files).artifacts e extension

inductive Event where
  | resolve (name : String)
  | adopt (strategy : ResolveStrategy)
  | insert (path : Path) (bytes : Bytes)
  deriving DecidableEq, Repr

/-- Whether the files stay what they are. -/
def Event.leavesFiles : Event → Bool
  | .insert .. => false
  | _ => true

/-- The directories asked for, in order. -/
def listingsOf (trace : List Consultation) : List Path :=
  trace.filterMap fun
    | .listing dir => some dir
    | _ => none

/-- A resolver in use over a file system, and all that it asked. -/
structure Usage (σ : Type) where
  files : σ
  resolver : Resolver
  trace : List Consultation := []

/-- What has happened: the files now, the strategy and the listings that were asked for. -/
structure History (σ : Type) where
  files : σ
  strategy : ResolveStrategy
  log : List Query := []

section Usage

variable {σ : Type} (fs : FileSystem σ) (searchPath : SearchPath) (extension : String)

namespace Usage

def after (u : Usage σ) : Event → Usage σ
  | .resolve name =>
    let found := u.resolver.resolve (fs.source u.files) name
    { u with resolver := found.resolver, trace := u.trace ++ found.trace }
  | .adopt strategy => { u with resolver := { u.resolver with strategy } }
  | .insert path bytes => { u with files := fs.insert u.files path bytes }

def run (u : Usage σ) (events : List Event) : Usage σ := events.foldl (after fs) u

/-- A new resolver. -/
def start (searchPath : SearchPath) (extension : String) (strategy : ResolveStrategy) (files : σ) :
    Usage σ where
  files := files
  resolver := { searchPath, extension, strategy }

end Usage

namespace History

/-- The search for the artifact of an import name, after the listings of the log. -/
def search (h : History σ) (name : String) : Search where
  source := fs.source h.files
  extension := extension
  log := h.log
  subdirectory := (Path.ofText (name ++ "." ++ extension)).parent?.getD ""
  leaf := (Path.ofText (name ++ "." ++ extension)).fileText?.getD ""

/-- Only a search by listings asks for listings. -/
def after (h : History σ) : Event → History σ
  | .resolve name =>
    match h.strategy with
    | .probe => h
    | .index =>
      { h with log := h.log ++ (h.search fs extension name).questions searchPath.roots.zipIdx }
  | .adopt strategy => { h with strategy }
  | .insert path bytes => { h with files := fs.insert h.files path bytes }

def run (h : History σ) (events : List Event) : History σ :=
  events.foldl (after fs searchPath extension) h

end History

/-- The resolver in use and the history agree; the index holds the first successful listing of each
shelf, and no shelf was listed successfully twice. -/
structure Follows (u : Usage σ) (h : History σ) : Prop where
  files : u.files = h.files
  searchPath : u.resolver.searchPath = searchPath
  extension : u.resolver.extension = extension
  strategy : u.resolver.strategy = h.strategy
  index : ∀ shelf, u.resolver.index.lookup shelf = firstListing h.log shelf
  asked : listingsOf u.trace = h.log.map Query.dir
  once : ((h.log.filter (·.answer.isOk)).map Query.shelf).Nodup

variable {fs searchPath extension} {u : Usage σ} {h : History σ}

lemma after_of_probe (hs : h.strategy = .probe) (name : String) :
    h.after fs searchPath extension (.resolve name) = h := by
  simp only [History.after, hs]

lemma after_of_index (hs : h.strategy = .index) (name : String) :
    h.after fs searchPath extension (.resolve name) = { h with
      log := h.log ++ (h.search fs extension name).questions searchPath.roots.zipIdx } := by
  simp only [History.after, hs]

lemma follows_start (searchPath : SearchPath) (extension : String) (strategy : ResolveStrategy)
    (files : σ) :
    Follows searchPath extension (.start searchPath extension strategy files)
      ⟨files, strategy, []⟩ :=
  ⟨rfl, rfl, rfl, rfl, fun _ => rfl, rfl, .nil⟩

lemma resolve_serves (fs : FileSystem σ) (hu : Follows searchPath extension u h)
    (hs : h.strategy = .index) (name : String) :
    (u.resolver.resolve (fs.source u.files) name).answer =
        (h.search fs extension name).answer searchPath.roots.zipIdx ∧
      Serves (h.search fs extension name) u.resolver searchPath.roots.zipIdx
        (u.resolver.resolve (fs.source u.files) name) := by
  have hresolve : u.resolver.resolve (fs.source u.files) name =
      Resolver.lookupRoots (h.search fs extension name).source
        (h.search fs extension name).subdirectory (h.search fs extension name).leaf u.resolver 0
        searchPath.roots := by
    rw [resolve_eq_lookupRoots _ (hu.strategy.trans hs), hu.files, hu.searchPath,
      Resolver.artifactFileName, hu.extension]
    rfl
  rw [hresolve]
  exact lookupRoots_serves hu.extension (fun k _ => hu.index _) searchPath.roots

lemma listingsOf_append (a b : List Consultation) :
    listingsOf (a ++ b) = listingsOf a ++ listingsOf b :=
  List.filterMap_append

lemma listingsOf_map_probe (paths : List Path) : listingsOf (paths.map .probe) = [] := by
  rw [listingsOf, List.filterMap_map]
  exact List.filterMap_eq_nil_iff.2 fun _ _ => rfl

lemma listingsOf_map_listing (queries : List Query) :
    listingsOf (queries.map fun a => .listing a.dir) = queries.map Query.dir := by
  rw [listingsOf, List.filterMap_map]
  exact congrFun (List.filterMap_eq_map (f := Query.dir)) queries

lemma follows_probe (hu : Follows searchPath extension u h) (hs : h.strategy = .probe)
    (name : String) : Follows searchPath extension (u.after fs (.resolve name)) h := by
  have hprobe := resolve_probe (fs.source u.files) (hu.strategy.trans hs) name
  have husage : u.after fs (.resolve name) = { u with
      trace := u.trace ++ (u.resolver.resolve (fs.source u.files) name).trace } := by
    simp only [Usage.after, hprobe]
  have hasked : listingsOf (u.trace ++ (u.resolver.resolve (fs.source u.files) name).trace) =
      h.log.map Query.dir := by
    rw [hprobe, listingsOf_append, listingsOf_map_probe, List.append_nil, hu.asked]
  rw [husage]
  exact ⟨hu.files, hu.searchPath, hu.extension, hu.strategy, hu.index, hasked, hu.once⟩

lemma follows_index (fs : FileSystem σ) (hu : Follows searchPath extension u h)
    (hs : h.strategy = .index) (name : String) :
    Follows searchPath extension (u.after fs (.resolve name)) { h with
      log := h.log ++ (h.search fs extension name).questions searchPath.roots.zipIdx } := by
  obtain ⟨index, hkept⟩ := exists_index_resolve (fs.source u.files) u.resolver name
  obtain ⟨-, hserves⟩ := resolve_serves fs hu hs name
  refine ⟨hu.files, ?_, ?_, ?_, fun shelf => ?_, ?_, ?_⟩
  · exact (congrArg Resolver.searchPath hkept).trans hu.searchPath
  · exact (congrArg Resolver.extension hkept).trans hu.extension
  · exact (congrArg Resolver.strategy hkept).trans hu.strategy
  · rw [firstListing_append, ← hu.index]
    exact hserves.index shelf
  · change listingsOf (u.trace ++ (u.resolver.resolve (fs.source u.files) name).trace) = _
    rw [listingsOf_append, hserves.trace, listingsOf_map_listing, hu.asked, List.map_append]
  · exact once_append (h.search fs extension name) hu.once searchPath.roots

/-- Whatever happens, the resolver goes on following its history. -/
theorem follows_after (hu : Follows searchPath extension u h) (e : Event) :
    Follows searchPath extension (u.after fs e) (h.after fs searchPath extension e) := by
  cases e with
  | adopt strategy =>
    exact ⟨hu.files, hu.searchPath, hu.extension, rfl, hu.index, hu.asked, hu.once⟩
  | insert path bytes =>
    have hfiles : fs.insert u.files path bytes = fs.insert h.files path bytes := by rw [hu.files]
    exact ⟨hfiles, hu.searchPath, hu.extension, hu.strategy, hu.index, hu.asked, hu.once⟩
  | resolve name =>
    cases hs : h.strategy with
    | probe =>
      rw [after_of_probe hs]
      exact follows_probe hu hs name
    | index =>
      rw [after_of_index hs]
      exact follows_index fs hu hs name

theorem follows_run (hu : Follows searchPath extension u h) (events : List Event) :
    Follows searchPath extension (u.run fs events) (h.run fs searchPath extension events) := by
  induction events generalizing u h with
  | nil => exact hu
  | cons e events ih => exact ih (follows_after hu e)

/-- What the file system answers, as it is, for the directory of a shelf. -/
structure Genuine (fs : FileSystem σ) (searchPath : SearchPath) (extension : String) (files : σ)
    (a : Query) : Prop where
  answer : a.answer = (fs.source files).artifacts a.dir extension
  place : ∃ root, searchPath.roots[a.shelf.position]? = some root ∧
    a.dir.components = joined root.components a.shelf.subdirectory

lemma genuine_of_mem_questions {name : String} {a : Query}
    (ha : a ∈ (h.search fs extension name).questions searchPath.roots.zipIdx) :
    Genuine fs searchPath extension h.files a := by
  obtain ⟨⟨root, position⟩, hvisited, -, rfl⟩ := mem_questions_iff.1 ha
  have hmem : (root, position) ∈ searchPath.roots.zipIdx :=
    (throughFirst_isPrefix _ _).subset hvisited
  have hroot := List.mk_mem_zipIdx_iff_getElem?.1 hmem
  exact ⟨rfl, root, hroot, components_ite_isEmpty root _⟩

/-- Every entry of the log is what the file system answered at the time. -/
theorem genuine_of_mem_log {events : List Event} {a : Query}
    (ha : a ∈ (h.run fs searchPath extension events).log) :
    a ∈ h.log ∨ ∃ before name later, events = before ++ .resolve name :: later ∧
      Genuine fs searchPath extension (h.run fs searchPath extension before).files a := by
  induction events generalizing h with
  | nil => exact .inl ha
  | cons e events ih =>
    rcases ih ha with hfirst | ⟨before, name, later, rfl, hgenuine⟩
    · cases e with
      | adopt strategy => exact .inl hfirst
      | insert path bytes => exact .inl hfirst
      | resolve name =>
        cases hs : h.strategy with
        | probe =>
          rw [after_of_probe hs] at hfirst
          exact .inl hfirst
        | index =>
          rw [after_of_index hs] at hfirst
          rcases List.mem_append.1 hfirst with hold | hnew
          · exact .inl hold
          · exact .inr ⟨[], name, events, rfl, genuine_of_mem_questions hnew⟩
    · exact .inr ⟨e :: before, name, later, rfl, hgenuine⟩

lemma files_of_run {events : List Event} (hleave : ∀ e ∈ events, e.leavesFiles = true) :
    (h.run fs searchPath extension events).files = h.files := by
  induction events generalizing h with
  | nil => rfl
  | cons e events ih =>
    have hrest := ih (h := h.after fs searchPath extension e) fun e he =>
      hleave e (List.mem_cons_of_mem _ he)
    refine hrest.trans ?_
    cases e with
    | adopt strategy => rfl
    | insert path bytes => cases hleave _ List.mem_cons_self
    | resolve name =>
      cases hs : h.strategy with
      | probe => rw [after_of_probe hs]
      | index => rw [after_of_index hs]

/-- The same files and strategy, with nothing listed. -/
def History.forget (h : History σ) : History σ := { h with log := [] }

/-- What was listed successfully in the directories of a name is what the file system answers now.
-/
def Current (fs : FileSystem σ) (searchPath : SearchPath) (extension : String) (h : History σ)
    (name : String) : Prop :=
  ∀ a ∈ h.log, a.answer.isOk = true →
    a.shelf.subdirectory = (h.search fs extension name).subdirectory.components →
      Genuine fs searchPath extension h.files a

lemma listing_forget {name : String} {root : Path} {position : Nat}
    (hroot : searchPath.roots[position]? = some root)
    (hcurrent : Current fs searchPath extension h name) :
    (h.search fs extension name).listing (root, position) =
      (h.forget.search fs extension name).listing (root, position) := by
  change _ = (fs.source h.files).artifacts ((h.search fs extension name).directory root) extension
  unfold Search.listing
  split
  · rename_i paths hfirst
    obtain ⟨a, ha, hshelf, hanswer⟩ := exists_of_firstListing hfirst
    have hok : a.answer.isOk = true := by rw [hanswer]; rfl
    obtain ⟨hsame, root', hroot', hdir⟩ := hcurrent a ha hok (by rw [hshelf]; rfl)
    rw [hshelf] at hroot' hdir
    cases hroot.symm.trans hroot'
    have hequiv : a.dir ≈ (h.search fs extension name).directory root :=
      hdir.trans (components_ite_isEmpty root _).symm
    rw [← hanswer, hsame]
    exact fs.artifacts_congr h.files hequiv extension
  · rfl

theorem answer_forget (h : History σ) (name : String)
    (hcurrent : Current fs searchPath extension h name) :
    (h.search fs extension name).answer searchPath.roots.zipIdx =
      (h.forget.search fs extension name).answer searchPath.roots.zipIdx := by
  refine answer_congr fun ⟨root, position⟩ hplace => ?_
  have hroot := List.mk_mem_zipIdx_iff_getElem?.1 hplace
  unfold Search.verdict?
  rw [listing_forget hroot hcurrent]
  rfl

/-- A new resolver answers as one that has listed what the file system still answers. -/
theorem resolve_forget (hu : Follows searchPath extension u h) (name : String)
    (hcurrent : Current fs searchPath extension h name) :
    (u.resolver.resolve (fs.source u.files) name).answer =
      ((Usage.start searchPath extension u.resolver.strategy u.files).resolver.resolve
        (fs.source u.files) name).answer := by
  have hstart := follows_start searchPath extension h.strategy h.files
  cases hs : h.strategy with
  | probe =>
    have hnew := resolve_probe (fs.source u.files)
      (r := (Usage.start searchPath extension u.resolver.strategy u.files).resolver)
      (hu.strategy.trans hs) name
    rw [resolve_probe _ (hu.strategy.trans hs), hnew]
    simp only [Usage.start, hu.searchPath, hu.extension]
  | index =>
    have hnew := (resolve_serves fs hstart hs name).1
    rw [(resolve_serves fs hu hs name).1, answer_forget h name hcurrent, hu.strategy, hu.files]
    exact hnew.symm

/-- A resolve that fails asks first for what it failed on when it is tried again. -/
theorem resolve_again {r : Resolver} {src : FileSource} {name : String} {f : ListingFailure}
    (hfail : (r.resolve src name).answer = .error f) (src' : FileSource) :
    ∃ later, ((r.resolve src name).resolver.resolve src' name).trace = .listing f.dir :: later := by
  cases hs : r.strategy with
  | probe =>
    rw [resolve_probe src hs] at hfail
    cases hfail
  | index =>
    obtain ⟨index, hkept⟩ := exists_index_resolve src r name
    have hs' : (r.resolve src name).resolver.strategy = .index :=
      (congrArg Resolver.strategy hkept).trans hs
    have hfile : (r.resolve src name).resolver.artifactFileName name = r.artifactFileName name := by
      rw [hkept, Resolver.artifactFileName, Resolver.artifactFileName]
    have hroots : (r.resolve src name).resolver.searchPath = r.searchPath := by
      rw [hkept]
    rw [resolve_eq_lookupRoots src' hs', hfile, hroots]
    rw [resolve_eq_lookupRoots src hs] at hfail ⊢
    exact lookupRoots_again hfail src'

/-- Whatever happened to the files and to the strategy, the index is a snapshot: what it holds for a
shelf is the first successful listing, which the file system gave at the time. An indexing resolver
answers from these, root by root, and lists only what was not listed successfully before; a failed
listing leaves the index as it is and is tried again. A probing resolver makes no use of the index.
While the files stay what they are, the answers are those of a new resolver. -/
theorem index_is_snapshot (fs : FileSystem σ) (searchPath : SearchPath) (extension : String)
    (strategy : ResolveStrategy) (files : σ) (events : List Event) :
    let history := History.run fs searchPath extension ⟨files, strategy, []⟩
    let h := history events
    let u := Usage.run fs (.start searchPath extension strategy files) events
    let src := fs.source u.files
    Follows searchPath extension u h ∧
    (∀ a ∈ h.log, ∃ before name later, events = before ++ .resolve name :: later ∧
      Genuine fs searchPath extension (history before).files a) ∧
    (∀ position root sub f, (Resolver.listing src u.resolver position root sub).answer = .error f →
      (Resolver.listing src u.resolver position root sub).resolver = u.resolver) ∧
    ∀ name,
      (u.resolver.strategy = .index →
        (u.resolver.resolve src name).answer =
            (h.search fs extension name).answer searchPath.roots.zipIdx ∧
          (u.resolver.resolve src name).trace =
            ((h.search fs extension name).questions searchPath.roots.zipIdx).map
              fun a => .listing a.dir) ∧
      (∀ f, (u.resolver.resolve src name).answer = .error f → ∀ src', ∃ later,
        ((u.resolver.resolve src name).resolver.resolve src' name).trace =
          .listing f.dir :: later) ∧
      (u.resolver.strategy = .probe → ∀ index,
        ({ u.resolver with index } : Resolver).resolve src name =
          { u.resolver.resolve src name with resolver := { u.resolver with index } }) ∧
      ∀ before later, events = before ++ later → (∀ e ∈ later, e.leavesFiles = true) →
        (∀ a ∈ (history before).log, a.answer.isOk = true →
          a.shelf.subdirectory ≠ (h.search fs extension name).subdirectory.components) →
        (u.resolver.resolve src name).answer =
          ((Usage.start searchPath extension u.resolver.strategy u.files).resolver.resolve src
            name).answer := by
  intro history h u src
  have hu : Follows searchPath extension u h :=
    follows_run (follows_start searchPath extension strategy files) events
  refine ⟨hu, ?_, ?_, fun name => ⟨?_, ?_, ?_, ?_⟩⟩
  · intro a ha
    exact (genuine_of_mem_log ha).resolve_left List.not_mem_nil
  · intro position root sub f hfail
    rw [(listing_of_error hfail).1]
  · intro hs
    obtain ⟨hanswer, hserves⟩ := resolve_serves fs hu (hu.strategy.symm.trans hs) name
    exact ⟨hanswer, hserves.trace⟩
  · exact fun f hfail => resolve_again hfail
  · intro hs index
    have hother : ({ u.resolver with index } : Resolver).strategy = .probe := hs
    rw [resolve_probe src hother, resolve_probe src hs]
  · rintro before later rfl hleave hbefore
    refine resolve_forget hu name fun a ha hok hsub => ?_
    have hrun : h = (history before).run fs searchPath extension later := List.foldl_append
    have hfiles : h.files = (history before).files := by
      rw [hrun]
      exact files_of_run hleave
    rw [hrun] at ha
    rcases genuine_of_mem_log ha with hold | ⟨front, _, rest, rfl, hgenuine⟩
    · exact absurd hsub (hbefore a hold hok)
    · have hfront : ((history before).run fs searchPath extension front).files = h.files := by
        rw [hfiles]
        exact files_of_run fun e he => hleave e (List.mem_append_left _ he)
      rw [← hfront]
      exact hgenuine

end Usage

/-- The file system of a store in which some directories cannot be listed. -/
def lockingAway (dirs : List Path) : FileSystem Store where
  source s := { s.source with
    artifacts := fun dir extension =>
      if dirs.any (· ≈ dir) then .error .denied else s.source.artifacts dir extension }
  insert := Store.insert
  artifacts_congr s d e h extension := by
    have hlocked : dirs.any (· ≈ d) = dirs.any (· ≈ e) := by
      congr 1
      funext dir
      exact decide_eq_decide.2 ⟨fun hd => hd.trans h, fun he => he.trans h.symm⟩
    have hlist : s.source.artifacts d extension = s.source.artifacts e extension :=
      congrArg Except.ok (artifacts_congr h extension)
    simp only [hlocked, hlist]

/-- A file is put into a directory after that was listed, and is looked for under both strategies.
-/
def lateArrival : List Event :=
  [.adopt .index, .resolve "a", .insert "lib/b.gr.wasm" [2], .resolve "b", .adopt .probe,
    .resolve "b", .adopt .index]

/-- The listing from before is used, so the search goes on to a root that is locked; what was not
listed yet is found as by a new resolver. -/
theorem index_is_snapshot_late_arrival :
    let fs := lockingAway ["locked"]
    let roots : SearchPath := .ofList ["lib", "locked"]
    let files := Store.ofList [("lib/a.gr.wasm", [1])]
    let u := Usage.run fs (.start roots "gr.wasm" .probe files) lateArrival
    let src := fs.source u.files
    u.resolver.strategy = .index ∧
      (u.resolver.resolve src "a").answer = .ok (some (.ofText "lib/a.gr.wasm")) ∧
      (u.resolver.resolve src "b").answer = .error ⟨"locked", .denied⟩ ∧
      (∃ later, ((u.resolver.resolve src "b").resolver.resolve src "b").trace =
        .listing "locked" :: later) ∧
      (u.resolver.resolve src "sub/b").answer =
        ((Usage.start roots "gr.wasm" .index u.files).resolver.resolve src "sub/b").answer := by
  intro fs roots files u src
  obtain ⟨-, -, -, hnext⟩ := index_is_snapshot fs roots "gr.wasm" .probe files lateArrival
  have hindex : u.resolver.strategy = .index := rfl
  have hfailed : (u.resolver.resolve src "b").answer = .error ⟨"locked", .denied⟩ :=
    ((hnext "b").1 hindex).1.trans (by decide)
  refine ⟨hindex, ((hnext "a").1 hindex).1.trans (by decide), hfailed,
    (hnext "b").2.1 _ hfailed src, ?_⟩
  exact (hnext "sub/b").2.2.2 (lateArrival.take 3) (lateArrival.drop 3) rfl (by decide) (by decide)

end WasmBundle.Proofs
