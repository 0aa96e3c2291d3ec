import WasmBundle.Config
import WasmBundle.Proofs.PathSteps

/-!
# Rebasing configurations

Rebasing joins every path of a configuration to a base and leaves all else alone. Since joining is
associative as text, rebasing onto one base after the other is rebasing onto the two joined, and the
empty path is the base that changes nothing. A base that begins at the root settles all paths, so
that no later rebasing moves them.
-/

namespace WasmBundle.Proofs
open Config

variable {c : Config}

/-- Paths that begin at the root are moved by no base. -/
def Settled (c : Config) : Prop :=
  (∀ home, c.grainHome = some home → home.isAbsolute = true) ∧
    ∀ dir ∈ c.includeDirs, dir.isAbsolute = true

theorem rebase_rebase (c : Config) (inner outer : Path) :
    (c.rebase inner).rebase outer = c.rebase (outer.join inner) := by
  have hjoin : outer.join ∘ inner.join = (outer.join inner).join :=
    funext fun p => (join_assoc outer inner p).symm
  simp only [rebase, Option.map_map, List.map_map, hjoin]

theorem rebase_empty (c : Config) : c.rebase "" = c := by
  have hid : ("" : Path).join = id := funext empty_join
  simp only [rebase, hid, Option.map_id, List.map_id, id_eq]

lemma rebase_of_settled (h : Settled c) (base : Path) : c.rebase base = c := by
  obtain ⟨hhome, hdirs⟩ := h
  have hhome' : c.grainHome.map base.join = c.grainHome := by
    cases hc : c.grainHome with
    | none => rfl
    | some home => rw [Option.map_some, join_of_absolute base (hhome home hc)]
  have hdirs' : c.includeDirs.map base.join = c.includeDirs := by
    refine (List.map_congr_left fun dir hdir => ?_).trans (List.map_id _)
    exact join_of_absolute base (hdirs dir hdir)
  rw [rebase, hhome', hdirs']

lemma settled_rebase (c : Config) {base : Path} (hbase : base.isAbsolute = true) :
    Settled (c.rebase base) := by
  refine ⟨fun home hhome => ?_, fun dir hdir => ?_⟩
  · obtain ⟨p, -, rfl⟩ := Option.map_eq_some_iff.1 hhome
    exact isAbsolute_join_of_left hbase p
  · obtain ⟨p, -, rfl⟩ := List.mem_map.1 hdir
    exact isAbsolute_join_of_left hbase p

lemma validate_rebase (h : c.validate = .ok ()) (base : Path) :
    (c.rebase base).validate = .ok () := by
  obtain ⟨hdirs, hextension⟩ := c.validate_eq_ok_iff.1 h
  refine (validate_eq_ok_iff _).2 ⟨fun dir hdir => ?_, hextension⟩
  obtain ⟨p, hp, rfl⟩ := List.mem_map.1 hdir
  exact isEmpty_join_of_right base (hdirs p hp)

/-- Rebasing onto one base and then another is rebasing onto the first joined to the second, and the
empty base changes nothing. Every directory keeps its place, those that begin at the root keep their
text, and a second rebasing onto the same base does nothing if the base begins at the root. The
strategy and the conventions stay, and a valid configuration stays valid. -/
theorem rebasing_acts_by_joining (c : Config) :
    (∀ inner outer, (c.rebase inner).rebase outer = c.rebase (outer.join inner)) ∧
    c.rebase "" = c ∧
    ∀ base,
      ((c.rebase base).includeDirs.length = c.includeDirs.length ∧
        (c.rebase base).strategy = c.strategy ∧ (c.rebase base).conventions = c.conventions) ∧
      (∀ (i : Nat) (dir : Path), c.includeDirs[i]? = some dir →
        (c.rebase base).includeDirs[i]? = some (base.join dir) ∧
          (dir.isAbsolute = true → (c.rebase base).includeDirs[i]? = some dir)) ∧
      (∀ home, c.grainHome = some home → home.isAbsolute = true →
        (c.rebase base).grainHome = some home) ∧
      (base.isAbsolute = true → (c.rebase base).rebase base = c.rebase base) ∧
      (c.validate = .ok () → (c.rebase base).validate = .ok ()) := by
  refine ⟨rebase_rebase c, rebase_empty c, fun base => ⟨⟨?_, rfl, rfl⟩, ?_, ?_, ?_, ?_⟩⟩
  · exact List.length_map _
  · intro i dir hdir
    have hplace : (c.rebase base).includeDirs[i]? = some (base.join dir) := by
      rw [rebase, List.getElem?_map, hdir, Option.map_some]
    refine ⟨hplace, fun habsolute => ?_⟩
    rw [hplace, join_of_absolute base habsolute]
  · intro home hhome habsolute
    rw [rebase, hhome, Option.map_some, join_of_absolute base habsolute]
  · exact fun hbase => rebase_of_settled (settled_rebase c hbase) base
  · exact fun hvalid => validate_rebase hvalid base

/-- A configuration with directories that begin at the root, end in a separator or are `.`. -/
def scatteredConfig : Config where
  grainHome := some (.ofText "/opt//grain/")
  includeDirs := ["lib/", "/abs/./x", "."]

/-- The base is joined from one that begins at the root and one that is empty. -/
theorem rebasing_acts_by_joining_scattered :
    scatteredConfig.validate = .ok () ∧ scatteredConfig.grainHome = some (.ofText "/opt//grain/") ∧
    scatteredConfig.includeDirs[1]? = some (.ofText "/abs/./x") ∧
    ("/etc/." : Path).isAbsolute = true ∧ ("/abs/./x" : Path).isAbsolute = true ∧
    ("/opt//grain/" : Path).isAbsolute = true ∧
    (scatteredConfig.rebase "").rebase "/etc/." = scatteredConfig.rebase "/etc/./" ∧
    (scatteredConfig.rebase "/etc/.").includeDirs[1]? = some (.ofText "/abs/./x") ∧
    (scatteredConfig.rebase "/etc/.").grainHome = some (.ofText "/opt//grain/") ∧
    (scatteredConfig.rebase "/etc/.").rebase "/etc/." = scatteredConfig.rebase "/etc/." ∧
    (scatteredConfig.rebase "/etc/.").validate = .ok () := by
  obtain ⟨hjoin, -, hbase⟩ := rebasing_acts_by_joining scatteredConfig
  obtain ⟨-, hdirs, hhome, htwice, hvalid⟩ := hbase "/etc/."
  have hconfig : scatteredConfig.validate = .ok () := by decide
  have hroots : ("/etc/." : Path).isAbsolute = true ∧ ("/abs/./x" : Path).isAbsolute = true ∧
      ("/opt//grain/" : Path).isAbsolute = true := by decide
  obtain ⟨hetc, habs, hopt⟩ := hroots
  have hempty : ("/etc/." : Path).join "" = "/etc/./" := by decide
  exact ⟨hconfig, rfl, rfl, hetc, habs, hopt, hempty ▸ hjoin "" "/etc/.",
    (hdirs 1 _ rfl).2 habs, hhome _ rfl hopt, htwice hetc, hvalid hconfig⟩

end WasmBundle.Proofs
