import WasmBundle.Proofs.NameResolution
import WasmBundle.Proofs.WalkDependence

/-!
# Roots of lower precedence

A name is resolved in the first root that has it, and roots behind that one are neither probed nor
listed. So a walk that succeeds goes on as before when its search path goes on, whatever stands in
the further roots and even if they cannot be listed.
-/

namespace WasmBundle.Proofs
open Walk

/-- The resolver over another search path, with the listings it has. -/
def overPath (searchPath : SearchPath) (r : Resolver) : Resolver := { r with searchPath }

/-- The state with its resolver over another search path. -/
def overPathState (searchPath : SearchPath) (s : State) : State :=
  { s with resolver := overPath searchPath s.resolver }

lemma exists_roots_foldl_push (searchPath : SearchPath) (dirs : List Path) :
    ∃ more, (dirs.foldl SearchPath.push searchPath).roots = searchPath.roots ++ more := by
  induction dirs generalizing searchPath with
  | nil => exact ⟨[], (List.append_nil _).symm⟩
  | cons dir dirs ih =>
    obtain ⟨more, hmore⟩ := ih (searchPath.push dir)
    rw [List.foldl_cons, hmore, SearchPath.push]
    split
    · exact ⟨more, rfl⟩
    · exact ⟨dir :: more, List.append_assoc _ [dir] more⟩

variable {src : FileSource} {v : Conventions} {searchPath : SearchPath} {more : List Path}

section Listings

variable {sub : Path} {leaf : String} {r : Resolver} {position : Nat} {roots : List Path}

lemma listing_overPath (src : FileSource) (searchPath : SearchPath) (r : Resolver) (position : Nat)
    (root sub : Path) :
    Resolver.listing src (overPath searchPath r) position root sub =
      { Resolver.listing src r position root sub with
        resolver := overPath searchPath (Resolver.listing src r position root sub).resolver } := by
  simp only [Resolver.listing, overPath]
  split
  · rfl
  · split <;> rfl

lemma lookupRoots_append {path : Path}
    (h : (Resolver.lookupRoots src sub leaf r position roots).answer = .ok (some path)) :
    Resolver.lookupRoots src sub leaf (overPath searchPath r) position (roots ++ more) =
      { Resolver.lookupRoots src sub leaf r position roots with
        resolver := overPath searchPath
          (Resolver.lookupRoots src sub leaf r position roots).resolver } := by
  induction roots generalizing r position with
  | nil => cases h
  | cons root roots ih =>
    have hhere := listing_overPath src searchPath r position root sub
    cases hl : (Resolver.listing src r position root sub).answer with
    | error e =>
      rw [lookupRoots_of_error hl] at h
      cases h
    | ok paths =>
      have hl' : (Resolver.listing src (overPath searchPath r) position root sub).answer =
          .ok paths := by rw [hhere, hl]
      cases hf : Resolver.lookup? paths leaf with
      | some found =>
        rw [List.cons_append, lookupRoots_of_found hl' hf, lookupRoots_of_found hl hf, hhere]
      | none =>
        rw [lookupRoots_of_missing hl hf] at h
        rw [List.cons_append, lookupRoots_of_missing hl' hf, lookupRoots_of_missing hl hf, hhere,
          ih h]

end Listings

/-- A name that is resolved is resolved in the same way when further roots follow. -/
theorem resolve_overPath {r : Resolver} (hroots : searchPath.roots = r.searchPath.roots ++ more)
    {name : String} {path : Path} (h : (r.resolve src name).answer = .ok (some path)) :
    (overPath searchPath r).resolve src name =
      { r.resolve src name with
        resolver := overPath searchPath (r.resolve src name).resolver } := by
  cases hr : r.strategy with
  | probe =>
    rw [resolve_probe src hr] at h ⊢
    have hfound : (candidates r.searchPath r.extension name).find? src.isFile = some path :=
      Except.ok.inj h
    have hcandidates : candidates searchPath r.extension name =
        candidates r.searchPath r.extension name ++
          more.map fun root => root.join (.ofText (name ++ "." ++ r.extension)) := by
      rw [candidates, candidates, hroots, List.map_append]
    rw [resolve_probe src (r := overPath searchPath r) hr]
    simp only [overPath, hcandidates, List.find?_append, hfound, throughFirst_append hfound]
    rfl
  | index =>
    have hr' : (overPath searchPath r).strategy = .index := hr
    have hroots' : (overPath searchPath r).searchPath.roots = r.searchPath.roots ++ more := hroots
    simp only [Resolver.resolve, hr] at h
    simp only [Resolver.resolve, hr, hr', hroots']
    exact lookupRoots_append h

lemma fetch_overPath {r r' : Resolver} (hroots : searchPath.roots = r.searchPath.roots ++ more)
    {name qualified : String} {m : Fetched} {trace : List Consultation}
    (h : fetch src v r name qualified = (.ok m, r', trace)) :
    fetch src v (overPath searchPath r) name qualified = (.ok m, overPath searchPath r', trace) ∧
      r'.searchPath = r.searchPath := by
  obtain ⟨hpath, hbytes, himports, rfl, rfl⟩ := fetch_eq_ok_iff.1 h
  have hresolve := resolve_overPath hroots hpath
  obtain ⟨index, hindex⟩ := exists_index_resolve src r name
  refine ⟨fetch_eq_ok_iff.2 ⟨?_, hbytes, himports, ?_, ?_⟩, by rw [hindex]⟩
  · rw [hresolve]
    exact hpath
  · rw [hresolve]
  · rw [hresolve]

/-- A step that goes on is made over the longer search path too. -/
theorem move_overPath {s t : State}
    (hroots : searchPath.roots = s.resolver.searchPath.roots ++ more)
    (h : Move src v s t) : Move src v (overPathState searchPath s) (overPathState searchPath t) ∧
      t.resolver.searchPath = s.resolver.searchPath := by
  cases h with
  | leave rest hp => exact ⟨.leave rest hp, rfl⟩
  | skip name names rest hp hk => exact ⟨.skip name names rest hp hk, rfl⟩
  | load name names rest m resolver trace hp hr hn hf =>
    obtain ⟨hf', hsame⟩ := fetch_overPath hroots hf
    exact ⟨.load name names rest m _ trace hp hr hn hf', hsame⟩

/-- A run that succeeds is a run over the longer search path too. -/
theorem runs_overPath {n : Nat} {s : State} {o : WalkOutcome} {r : Resolution}
    (hroots : searchPath.roots = s.resolver.searchPath.roots ++ more)
    (h : Runs src v n s o) (hok : o.answer = .ok r) :
    Runs src v n (overPathState searchPath s) o := by
  induction h with
  | stop hs =>
    cases hs with
    | finished hp => exact .stop (.finished hp)
    | failed => cases hok
  | move hm _ ih =>
    obtain ⟨hm', hsame⟩ := move_overPath hroots hm
    exact .move hm' (ih (hsame ▸ hroots) hok)

/-- A walk that succeeds has the same outcome and asks the same questions when directories are added
to its search path, whatever these hold and whether or not they can be listed. -/
theorem walk_of_pushed_roots (src : FileSource) (v : Conventions) (strategy : ResolveStrategy)
    (searchPath : SearchPath) (root : Bytes) (dirs : List Path) (r : Resolution)
    (hok : (walk src v strategy searchPath root).answer = .ok r) :
    walk src v strategy (dirs.foldl SearchPath.push searchPath) root =
      walk src v strategy searchPath root := by
  obtain ⟨more, hmore⟩ := exists_roots_foldl_push searchPath dirs
  cases hroot : v.imports root with
  | error e => rw [walk_of_malformed hroot, walk_of_malformed hroot]
  | ok names =>
    obtain ⟨n, hruns⟩ := exists_runs_walk src strategy searchPath hroot
    obtain ⟨k, hruns'⟩ :=
      exists_runs_walk src strategy (dirs.foldl SearchPath.push searchPath) hroot
    exact runs_unique hruns' (runs_overPath hmore hruns hok)

/-- The files of the store in which `a` imports itself, with a directory that cannot be listed. -/
def lockedSource : FileSource := selfImporting.source.denying [] ["locked"]

lemma walk_lockedSource : walk lockedSource unmarked .index sourceThenLib importingA =
    ⟨.ok selfImported, [.listing "src", .listing "lib/", .reading "lib/a.gr.wasm"]⟩ := by
  refine walk_eq_of_runs imports_importingA
    (.move (.load "a" [] [] ⟨"lib/a.gr.wasm", importingA, ["a"]⟩ _ _ rfl (by decide) (by decide)
      (fetch_eq_ok_iff.2 ⟨by decide, by decide, imports_importingA, rfl, rfl⟩))
    (.move (.skip "a" [] [[]] rfl (.inr (by decide))) (.move (.leave [[]] rfl)
    (.move (.leave [] rfl) (.stop (.finished rfl))))))

/-- A directory that is there in another spelling, an empty one and one that cannot be listed are
added. -/
theorem walk_of_pushed_roots_locked :
    lockedSource.artifacts "locked" unmarked.artifactExtension = .error .denied ∧
    (["lib", "", "locked"] : List Path).foldl SearchPath.push sourceThenLib =
      .ofList ["src", "lib/", "locked"] ∧
    walk lockedSource unmarked .index (.ofList ["src", "lib/", "locked"]) importingA =
      ⟨.ok selfImported, [.listing "src", .listing "lib/", .reading "lib/a.gr.wasm"]⟩ := by
  have hpushed : (["lib", "", "locked"] : List Path).foldl SearchPath.push sourceThenLib =
      .ofList ["src", "lib/", "locked"] := by decide
  refine ⟨by rfl, hpushed, ?_⟩
  have hwalk := walk_of_pushed_roots lockedSource unmarked .index sourceThenLib importingA
    ["lib", "", "locked"] selfImported (by rw [walk_lockedSource])
  rw [hpushed] at hwalk
  exact hwalk.trans walk_lockedSource

end WasmBundle.Proofs
