import WasmBundle.Proofs.NameCollisions
import WasmBundle.Proofs.RuntimeExclusion

/-!
# Namespaces and the names they are linked under

A binary asks for a module by a namespace, and a walk registers the module under the qualified name
of what is left of the namespace without its prefix. The two are the same exactly when the namespace
begins with the prefix or the marker is in what is left, but not both. A loader that looks modules
up by namespace then finds in the bundle whatever its binaries ask for.
-/

namespace WasmBundle.Proofs
open Walk

variable {v : Conventions}

/-- The marker, if there is one, stands somewhere in the name. -/
def Marked (v : Conventions) (name : String) : Prop :=
  v.stdlibMarker ≠ "" ∧ v.stdlibMarker.toList <:+: name.toList

lemma prefix_iff_exists_append {space : String} :
    v.modulePrefix.toList <+: space.toList ↔ ∃ name, space = v.modulePrefix ++ name := by
  constructor
  · rintro ⟨rest, hrest⟩
    refine ⟨String.ofList rest, String.toList_inj.1 ?_⟩
    rw [String.toList_append, String.toList_ofList, hrest]
  · rintro ⟨name, rfl⟩
    rw [String.toList_append]
    exact List.prefix_append _ _

lemma stripPrefix_append (name : String) : v.stripPrefix (v.modulePrefix ++ name) = name := by
  rcases bare_stripPrefix v (v.modulePrefix ++ name) with happend | ⟨hnot, -⟩
  · exact ((String.append_right_inj v.modulePrefix).1 happend).symm
  · exact absurd (prefix_iff_exists_append.2 ⟨name, rfl⟩) hnot

lemma stripPrefix_of_unprefixed {space : String} (h : ¬v.modulePrefix.toList <+: space.toList) :
    v.stripPrefix space = space := by
  rcases bare_stripPrefix v space with happend | ⟨-, hsame⟩
  · exact absurd (prefix_iff_exists_append.2 ⟨_, happend⟩) h
  · exact hsame

lemma append_ne_self (hp : v.modulePrefix ≠ "") (name : String) : v.modulePrefix ++ name ≠ name :=
  fun h => hp (String.append_eq_right_iff.1 h)

lemma stripPrefix_eq_self_iff (hp : v.modulePrefix ≠ "") {name : String} :
    v.stripPrefix name = name ↔ ¬v.modulePrefix.toList <+: name.toList := by
  refine ⟨fun hsame hbegins => ?_, stripPrefix_of_unprefixed⟩
  obtain ⟨rest, rfl⟩ := prefix_iff_exists_append.1 hbegins
  rw [stripPrefix_append] at hsame
  exact append_ne_self hp rest hsame.symm

lemma qualifiedName_eq_self_iff (hp : v.modulePrefix ≠ "") (name : String) :
    v.qualifiedName name = name ↔ Marked v name := by
  constructor
  · intro hsame
    by_contra hplain
    rw [qualifiedName_of_unmarked (mt isExternalStdlib_iff.1 hplain)] at hsame
    exact append_ne_self hp name hsame
  · exact fun hmarked => qualifiedName_of_marked (isExternalStdlib_iff.2 hmarked)

lemma qualifiedName_eq_append_iff (hp : v.modulePrefix ≠ "") (name : String) :
    v.qualifiedName name = v.modulePrefix ++ name ↔ ¬Marked v name := by
  constructor
  · intro happend hmarked
    rw [qualifiedName_of_marked (isExternalStdlib_iff.2 hmarked)] at happend
    exact append_ne_self hp name happend.symm
  · exact fun hplain => qualifiedName_of_unmarked (mt isExternalStdlib_iff.1 hplain)

theorem qualifiedName_stripPrefix_iff (hp : v.modulePrefix ≠ "") (space : String) :
    v.qualifiedName (v.stripPrefix space) = space ↔
      Xor (v.modulePrefix.toList <+: space.toList) (Marked v (v.stripPrefix space)) := by
  by_cases hbegins : v.modulePrefix.toList <+: space.toList
  · obtain ⟨name, rfl⟩ := prefix_iff_exists_append.1 hbegins
    have hiff := qualifiedName_eq_append_iff hp name
    rw [stripPrefix_append]
    simp only [Xor, hbegins, hiff, true_and, not_true_eq_false, and_false, or_false]
  · have hiff := qualifiedName_eq_self_iff hp space
    rw [stripPrefix_of_unprefixed hbegins]
    simp only [Xor, hbegins, hiff, false_and, not_false_eq_true, and_true, false_or]

theorem stripPrefix_qualifiedName_iff (hp : v.modulePrefix ≠ "") (name : String) :
    v.stripPrefix (v.qualifiedName name) = name ↔
      ¬(Marked v name ∧ v.modulePrefix.toList <+: name.toList) := by
  by_cases hmarked : Marked v name
  · rw [(qualifiedName_eq_self_iff hp name).2 hmarked, stripPrefix_eq_self_iff hp]
    simp [hmarked]
  · rw [(qualifiedName_eq_append_iff hp name).2 hmarked, stripPrefix_append]
    simp [hmarked]

/-- Without a prefix there is nothing to strip and nothing to put in front. -/
lemma unchanged_of_empty (hp : v.modulePrefix = "") (name : String) :
    v.stripPrefix name = name ∧ v.qualifiedName name = name := by
  have hsame : v.stripPrefix (v.modulePrefix ++ name) = name := stripPrefix_append name
  rw [hp, String.empty_append] at hsame
  refine ⟨hsame, ?_⟩
  unfold Conventions.qualifiedName
  rw [hp, String.empty_append, ite_self]

/-- What a walk has loaded has, under its qualified name, every module that the root or a loaded
module asks for. -/
lemma mem_modules_of_walk {src : FileSource} {strategy : ResolveStrategy} {searchPath : SearchPath}
    {root b : Bytes} {r : Resolution} (hok : (walk src v strategy searchPath root).answer = .ok r)
    (hb : b = root ∨ b ∈ r.modules.map Prod.snd) {name : String} (hn : name ∈ needs v b) :
    v.qualifiedName name ∈ r.modules.map Prod.fst := by
  obtain ⟨s, hs, hp, rfl, -⟩ := exists_finished (P := Pursuing v root)
    (fun _ _ => pursuing_of_move) (fun _ => pursuing_start) hok
  refine (has_iff ..).1 (has_of_covered hp ?_)
  rcases hb with rfl | hb
  · exact hs.root name hn
  · obtain ⟨⟨q, b'⟩, hm, rfl⟩ := List.mem_map.1 hb
    exact hs.loaded q b' hm name hn

lemma mem_needs_of_namespaces {b : Bytes} {spaces : List String}
    (h : Wasm.namespaces b = .ok spaces) {space : String} (hs : space ∈ spaces)
    (hr : v.isRuntime (v.stripPrefix space) = false) : v.stripPrefix space ∈ needs v b := by
  have himports : v.imports b = .ok (spaces.map v.stripPrefix).eraseDups := by
    rw [Conventions.imports, h]
    rfl
  exact (mem_needs himports).2 ⟨List.mem_eraseDups.2 (List.mem_map_of_mem hs), hr⟩

/-- With a prefix, qualifying what is left of a namespace gives it back exactly when the namespace
begins with the prefix or the marker is in what is left, but not both; stripping a qualified name
gives the name back unless the name has the marker and begins with the prefix. Without a prefix
neither changes anything. Where a walk succeeds, every namespace that is given back is one under
which a module is loaded. -/
theorem stripping_inverts_qualifying (v : Conventions) :
    (v.modulePrefix ≠ "" →
      (∀ space, v.qualifiedName (v.stripPrefix space) = space ↔
        Xor (v.modulePrefix.toList <+: space.toList) (Marked v (v.stripPrefix space))) ∧
      ∀ name, v.stripPrefix (v.qualifiedName name) = name ↔
        ¬(Marked v name ∧ v.modulePrefix.toList <+: name.toList)) ∧
    (v.modulePrefix = "" → ∀ name, v.qualifiedName (v.stripPrefix name) = name ∧
      v.stripPrefix (v.qualifiedName name) = name) ∧
    ∀ (src : FileSource) (strategy : ResolveStrategy) (searchPath : SearchPath) (root : Bytes)
      (r : Resolution), (walk src v strategy searchPath root).answer = .ok r →
      ∀ b, b = root ∨ b ∈ r.modules.map Prod.snd → ∀ spaces, Wasm.namespaces b = .ok spaces →
      ∀ space ∈ spaces, v.isRuntime (v.stripPrefix space) = false →
        v.qualifiedName (v.stripPrefix space) = space → space ∈ r.modules.map Prod.fst := by
  refine ⟨fun hp => ⟨qualifiedName_stripPrefix_iff hp, stripPrefix_qualifiedName_iff hp⟩,
    fun hp name => ?_,
    fun src strategy searchPath root r hok b hb spaces hspaces space hs hr hsame => ?_⟩
  · obtain ⟨hstrip, hqualify⟩ := unchanged_of_empty hp name
    rw [hstrip, hqualify]
    exact ⟨rfl, hstrip⟩
  · have hloaded := mem_modules_of_walk hok hb (mem_needs_of_namespaces hspaces hs hr)
    rwa [hsame] at hloaded

/-- A prefix that is there twice is given back, one in front of the marker is not; and the module
that the root and `a` itself ask for is found under the namespace they ask by. -/
theorem stripping_inverts_qualifying_env :
    ({} : Conventions).modulePrefix ≠ "" ∧
    ({} : Conventions).qualifiedName
        (({} : Conventions).stripPrefix "GRAIN$MODULE$GRAIN$MODULE$a") =
      "GRAIN$MODULE$GRAIN$MODULE$a" ∧
    ({} : Conventions).qualifiedName
      (({} : Conventions).stripPrefix "GRAIN$MODULE$stdlib-external/a") ≠
        "GRAIN$MODULE$stdlib-external/a" ∧
    ({} : Conventions).stripPrefix
      (({} : Conventions).qualifiedName "GRAIN$MODULE$stdlib-external/a") ≠
        "GRAIN$MODULE$stdlib-external/a" ∧
    ({ modulePrefix := "" } : Conventions).qualifiedName
      (({ modulePrefix := "" } : Conventions).stripPrefix "stdlib-external/a") =
        "stdlib-external/a" ∧
    (walk envStored.source {} .index sourceThenLib importingEnvA).answer =
      .ok ⟨[("GRAIN$MODULE$a", importingEnvA)], ["lib/a.gr.wasm"]⟩ ∧
    "GRAIN$MODULE$a" ∈ [("GRAIN$MODULE$a", importingEnvA)].map Prod.fst := by
  obtain ⟨hprefixed, -, hlinked⟩ := stripping_inverts_qualifying {}
  obtain ⟨hspace, hname⟩ := hprefixed (by decide)
  have hspaces : Wasm.namespaces importingEnvA = .ok ["env", "GRAIN$MODULE$a"] :=
    namespaces_binary (by decide)
  have hdoubled := (hspace "GRAIN$MODULE$GRAIN$MODULE$a").2
    (.inl ⟨by decide, fun h => absurd (isExternalStdlib_iff.2 h) (by decide)⟩)
  have hmarked : Marked {} "GRAIN$MODULE$stdlib-external/a" := ⟨by decide, by decide⟩
  have hleft : Marked {} (({} : Conventions).stripPrefix "GRAIN$MODULE$stdlib-external/a") :=
    ⟨by decide, by decide⟩
  have hbegins : ({} : Conventions).modulePrefix.toList <+:
      "GRAIN$MODULE$stdlib-external/a".toList := by decide
  have hempty := (stripping_inverts_qualifying { modulePrefix := "" }).2.1 rfl "stdlib-external/a"
  refine ⟨by decide, hdoubled, fun hback => ?_, fun hback => ?_, hempty.1, walk_envStored, ?_⟩
  · rcases (hspace _).1 hback with ⟨-, hnot⟩ | ⟨-, hnot⟩
    · exact hnot hleft
    · exact hnot hbegins
  · exact (hname _).1 hback ⟨hmarked, hbegins⟩
  · exact hlinked _ _ _ _ _ walk_envStored importingEnvA (.inl rfl) _ hspaces "GRAIN$MODULE$a"
      (by decide) (by decide) (by decide)

end WasmBundle.Proofs
