import Mathlib
import WasmBundle.CommandLine
import WasmBundle.Proofs.BundleOutput
import WasmBundle.Proofs.CommandArguments
import WasmBundle.Proofs.ImportSections
import WasmBundle.Proofs.WalkSteps

/-!
# Runs of the program

A run turns arguments into a request and ends as that request does. The other commands only look at
the disk, and so do arguments that make no request, so it is bundling alone that writes. A run on a
small disk ends with an output from which the bundle is read back.
-/

namespace WasmBundle.Proofs
open CommandLine Container Disk

variable {α β : Type} {launch : Launcher} {s : Session} {d : Disk} {after : Disk → Prop}

/-- How a run of the program ends. Only a command to bundle writes anything itself; arguments that
make no request leave the disk as it is. -/
inductive RunEnds (launch : Launcher) (environment : Environment) (arguments : List Bytes)
    (s : Session) : Outcome → Disk → Prop
  | stopped {stop : CommandLine.Stop} (hparse : parse arguments = .error stop) :
      RunEnds launch environment arguments s stop.outcome s.disk
  | bundled {r : BundleRequest} {colors : Option String} {report : Report} {d d' : Disk}
      (hparse : parse arguments = .ok ⟨.bundle r, colors⟩) (hleft : LeftBy launch r.source s.disk d)
      (hends : BundleEnds launch r s d report d') :
      RunEnds launch environment arguments s
        (report.outcome (showsColors environment colors) d') d'
  | resolved {source : Path} {o : Overrides} {colors : Option String} {report : Report} {d : Disk}
      (hparse : parse arguments = .ok ⟨.resolve source o, colors⟩)
      (hleft : LeftBy launch source s.disk d) :
      RunEnds launch environment arguments s (report.outcome (showsColors environment colors) d) d
  | looked {i : Invocation} {report : Report} (hparse : parse arguments = .ok i)
      (hlooks : (∃ binary config, i.request = .imports binary config) ∨
        ∃ container, i.request = .inspect container) :
      RunEnds launch environment arguments s
        (report.outcome (showsColors environment i.colors) s.disk) s.disk

lemma disk_report {work : Attempt (List Span)} {given : Disk → List Span → Prop}
    (h : Ensures work s after given) : after ((Attempt.report work).run s).2.disk := by
  have hdisk := h.disk
  rw [run_report]
  rcases houtcome : outcome work s with ⟨f | shown, t⟩ <;> rwa [houtcome] at hdisk

lemma disk_runImports (binary : Path) (config : Option Path) (s : Session) :
    ((runImports binary config).run s).2.disk = s.disk := by
  refine disk_report (quiet_bind (quiet_configAt _ _) (fun c => ?_) s)
  refine quiet_bind (quiet_orFail (fun _ _ _ => by simp) (looks_read binary)) fun bytes => ?_
  refine quiet_bind (quiet_orFail (fun _ _ _ => by simp) (looks_pure _)) fun names => ?_
  exact fun s => ensures_pure rfl trivial

lemma disk_runInspect (container : Path) (s : Session) :
    ((runInspect container).run s).2.disk = s.disk := by
  have hfailure : ∀ e, BeforeWriting (.unreadable container e) := fun _ _ _ => by simp
  refine disk_report (quiet_bind (quiet_orFail hfailure (looks_read container)) (fun bytes => ?_) s)
  refine quiet_bind (quiet_orFail (fun _ _ _ => by simp) (looks_pure _)) fun b => ?_
  exact fun s => ensures_pure rfl trivial

lemma disk_resolution (program : Program) (s : Session) :
    (outcome program.resolution s).2.disk = s.disk := by
  rw [Program.resolution, outcome_orFail]
  rfl

lemma run_onDisk_bind (x : OnDisk α) (f : α → OnDisk β) (s : Session) :
    (x >>= f).run s = (f (x.run s).1).run (x.run s).2 := rfl

lemma run_runResolve (launch : Launcher) (source : Path) (o : Overrides) (s : Session) :
    (runResolve launch source o).run s =
      match outcome (loadProgram launch source o) s with
      | (.error f, t) => ({ failure := some f }, t)
      | (.ok program, t) =>
        let shown := searchPathShown program.searchPath
        match outcome program.resolution t with
        | (.error f, u) => ({ shown, failure := some f }, u)
        | (.ok r, u) => ({ shown := shown ++ resolutionShown r }, u) := by
  simp only [outcome, runResolve, run_onDisk_bind]
  rcases (loadProgram launch source o).run.run s with ⟨f | program, t⟩
  · rfl
  · simp only [run_onDisk_bind]
    rcases program.resolution.run.run t with ⟨f | r, u⟩ <;> rfl

lemma leftBy_runResolve (launch : Launcher) (source : Path) (o : Overrides) (s : Session) :
    LeftBy launch source s.disk ((runResolve launch source o).run s).2.disk := by
  have hleft := (ensures_loadProgram launch source o s).disk
  rw [run_runResolve]
  rcases hload : outcome (loadProgram launch source o) s with ⟨f | program, t⟩
  · rwa [hload] at hleft
  · have hdisk := disk_resolution program t
    rw [hload, ← hdisk] at hleft
    dsimp only
    rcases hresolve : outcome program.resolution t with ⟨f | r, u⟩ <;> rwa [hresolve] at hleft

lemma run_of_parse {launch : Launcher} {environment : Environment} {arguments : List Bytes}
    {i : Invocation} (h : parse arguments = .ok i) (s : Session) :
    (run launch environment arguments).run s =
      (((i.request.run launch).run s).1.outcome (showsColors environment i.colors)
        ((i.request.run launch).run s).2.disk, ((i.request.run launch).run s).2) := by
  simp only [run, h]
  rfl

/-- Only a run that is told to bundle writes anything, apart from a compiler that is run. It writes
nothing before all is built; what it writes is the whole bundle, once, and after that only the
dependency file. -/
theorem bundling_writes_what_is_finished (launch : Launcher) (environment : Environment)
    (arguments : List Bytes) (s : Session) :
    RunEnds launch environment arguments s ((run launch environment arguments).run s).1
      ((run launch environment arguments).run s).2.disk := by
  cases hparse : parse arguments with
  | error stop =>
    have hrun : (run launch environment arguments).run s = (stop.outcome, s) := by
      simp only [run, hparse]
      rfl
    rw [hrun]
    exact .stopped hparse
  | ok i =>
    obtain ⟨request, colors⟩ := i
    rw [run_of_parse hparse]
    cases request with
    | bundle r =>
      obtain ⟨d, hleft, hends⟩ := ends_of_runBundle launch r s
      exact .bundled hparse hleft hends
    | resolve source o => exact .resolved hparse (leftBy_runResolve launch source o s)
    | imports binary config =>
      rw [Request.run, disk_runImports]
      exact .looked hparse (.inl ⟨binary, config, rfl⟩)
    | inspect container =>
      rw [Request.run, disk_runInspect]
      exact .looked hparse (.inr ⟨container, rfl⟩)

/-- A disk and a request have one program. -/
lemma Loaded.unique {source : Path} {o : Overrides} {program program' : Program}
    (h : Loaded s source o d program) (h' : Loaded s source o d program') : program = program' := by
  obtain ⟨config, installation, searchPath, root⟩ := program
  obtain ⟨hconfig, hinstallation, hpath, hroot⟩ := h
  obtain ⟨hconfig', hinstallation', hpath', hroot'⟩ := h'
  cases hconfig.symm.trans hconfig'
  cases hinstallation.symm.trans hinstallation'
  cases hpath.symm.trans hpath'
  cases hroot.symm.trans hroot'
  rfl

/-- Where all is there to build and the output can be written, a run that is told to bundle
succeeds, and the output leads to what was built. -/
lemma built_of_runEnds {environment : Environment} {r : BundleRequest} {product : Product}
    {o : Outcome} (hpaths : ∀ p ∈ pathsOf (.bundle r), p.isEmpty = false)
    (hsource : isCompiled r.source = true) (hbuild : Gives (build launch r) s product)
    (hwrite : ∀ bytes e, s.disk.write r.outputPath bytes ≠ .error e)
    (hfile : r.dependencyFile = none)
    (h : RunEnds launch environment (written (.bundle r)) s o d) :
    o.status = 0 ∧ ∃ product program shim b, Built s r s.disk product program shim b ∧
      Took s.disk d r.outputPath product.bytes := by
  have hparse := parse_written (.bundle r) hpaths
  cases h with
  | stopped hstop => cases hparse.symm.trans hstop
  | resolved hother => cases hparse.symm.trans hother
  | looked hother hlooks =>
    cases hparse.symm.trans hother
    rcases hlooks with ⟨_, _, hrequest⟩ | ⟨_, hrequest⟩ <;> cases hrequest
  | bundled hother hleft hends =>
    cases hparse.symm.trans hother
    cases hleft with
    | used hnot => cases hsource.symm.trans hnot
    | unused =>
      cases hends with
      | unbuilt hfails => cases hbuild.1.symm.trans hfails
      | unwritten _ hfails => exact absurd hfails (hwrite _ _)
      | delivered hbuilt _ htook hends =>
        cases hends with
        | done => exact ⟨rfl, _, _, _, _, hbuilt, htook⟩
        | unruled hruled => cases hfile.symm.trans hruled
        | ruled hruled => cases hfile.symm.trans hruled

/-- A binary that imports one module. -/
def workshopRoot : Bytes := binary [.imports [⟨"a", "f", .function 0⟩]]

/-- A disk with a compiled program, the module it imports and a shim. -/
def workshop : Disk where
  tree := .directory { mode := directoryMode } [(Bytes.utf8 "main.wasm", .file 0),
    (Bytes.utf8 "a.gr.wasm", .file 1), (Bytes.utf8 "shim.js", .file 2)]
  files := [{ bytes := workshopRoot }, { bytes := binary [] }, { bytes := Bytes.utf8 "let Grain;" }]

def workshopRequest (format : OutputFormat) : BundleRequest where
  source := "main.wasm"
  output := some "out"
  format := format
  shim := some "shim.js"
  overrides := { grainHome := some "." }

def workshopProgram : Program where
  config := { grainHome := some "." }
  installation := ⟨"."⟩
  searchPath := .ofList [".", "./stdlib"]
  root := workshopRoot

def workshopBundle : Bundle where
  shim := "let Grain;"
  modules := .ofList [("GRAIN$MODULE$a", binary [])]
  root := workshopRoot

lemma imports_workshopRoot : ({} : Conventions).imports workshopRoot = .ok ["a"] :=
  (imports_binary {} (by decide)).trans (congrArg Except.ok (by decide))

lemma bundle_workshop : (bundle workshop.source {} .probe workshopProgram.searchPath "let Grain;"
    workshopRoot).answer = .ok (workshopBundle, ["./a.gr.wasm"]) := by
  have hfound : (Resolver.resolve workshop.source
      { searchPath := workshopProgram.searchPath, extension := "gr.wasm" } "a").answer =
        .ok (some "./a.gr.wasm") := by cbv
  have hread : workshop.source.read "./a.gr.wasm" = .ok (binary []) := by cbv
  rw [bundle, walk_eq_of_runs imports_workshopRoot
    (.move (.load "a" [] [] ⟨"./a.gr.wasm", binary [], []⟩ _ _ rfl (by decide) (by decide)
      (fetch_eq_ok_iff.2 ⟨hfound, hread, imports_nothing _, rfl, rfl⟩))
    (.move (.leave [[]] rfl) (.move (.leave [] rfl) (.stop (.finished rfl)))))]
  decide

lemma shim_workshop : textRead (workshop.read "shim.js") = .ok "let Grain;" := by cbv

lemma find_workshop : workshop.find "out" = .error .noEntry := by cbv

lemma write_workshop (bytes : Bytes) (e : IoError) : workshop.write "out" bytes ≠ .error e := by
  have hok : (workshop.write "out" bytes).isOk = true := by cbv
  intro herror
  rw [herror] at hok
  cases hok

lemma configure_workshop (format : OutputFormat) :
    Gives (configure "main.wasm" (workshopRequest format).overrides) { disk := workshop }
      workshopProgram.config := by
  have hnone : Config.find? workshop.isFile (SearchPath.sourceDirectory "main.wasm") = none := by
    cbv
  have hvalid : ((workshopRequest format).overrides.apply {}).validate = .ok () := by
    cases format <;> decide
  exact gives_configure rfl hnone hvalid

lemma loaded_workshop (format : OutputFormat) :
    Loaded { disk := workshop } "main.wasm" (workshopRequest format).overrides workshop
      workshopProgram where
  config := (configure_workshop format).1
  installation := rfl
  searchPath := by decide
  root := by cbv

lemma build_workshop (launch : Launcher) (format : OutputFormat) :
    ∃ product, Gives (build launch (workshopRequest format)) { disk := workshop } product := by
  have hprogram : Gives (loadProgram launch "main.wasm" (workshopRequest format).overrides)
      { disk := workshop } workshopProgram :=
    gives_loadProgram rfl (configure_workshop format) (loaded_workshop format)
  have hfits : Fits workshopBundle := ⟨by decide, by decide, by decide, by decide, by decide⟩
  cases format with
  | script => exact ⟨_, gives_build hprogram shim_workshop bundle_workshop rfl⟩
  | container =>
    have hencode := (decodeWith_encodeWith checksum hfits).1
    exact ⟨_, gives_build hprogram shim_workshop bundle_workshop hencode⟩

/-- What a run that bundles the program of the workshop writes is the bundle of that program. -/
lemma contains_workshop {environment : Environment} {format : OutputFormat} {o : Outcome}
    (h : RunEnds launch environment (written (.bundle (workshopRequest format)))
      { disk := workshop } o d) :
    o.status = 0 ∧ ∃ bytes, d.read "out" = .ok bytes ∧ Contains workshopBundle format bytes := by
  obtain ⟨_, hbuild⟩ := build_workshop launch format
  have hpaths : ∀ p ∈ pathsOf (.bundle (workshopRequest format)), p.isEmpty = false := by
    cases format <;> decide
  obtain ⟨hstatus, product, program, shim, b, hbuilt, htook⟩ :=
    built_of_runEnds hpaths rfl hbuild write_workshop rfl h
  refine ⟨hstatus, product.bytes, ?_, ?_⟩
  · cases htook with
    | file hread => exact hread
    | device hbefore => cases find_workshop.symm.trans hbefore
  · cases (loaded_workshop format).unique hbuilt.loaded
    have hshimPath : product.shim = "shim.js" := hbuilt.shimPath
    have hshim := hbuilt.shimText
    rw [hshimPath] at hshim
    cases shim_workshop.symm.trans hshim
    obtain ⟨rfl, -⟩ := Prod.mk.inj (Except.ok.inj (bundle_workshop.symm.trans hbuilt.bundle))
    exact hbuilt.bytes

/-- No program can be started. -/
def noPrograms : Launcher := fun _ _ => pure (.error .noEntry)

theorem bundling_writes_what_is_finished_workshop :
    (∃ bytes, ((run noPrograms (fun _ => none) (written (.bundle (workshopRequest .container)))).run
        { disk := workshop }).2.disk.read "out" = .ok bytes ∧
      decode bytes = .ok workshopBundle) ∧
    ∃ text, ((run noPrograms (fun _ => none) (written (.bundle (workshopRequest .script)))).run
        { disk := workshop }).2.disk.read "out" = .ok (Bytes.utf8 text) ∧
      readScript? text = some workshopBundle := by
  have hends := fun format => bundling_writes_what_is_finished noPrograms (fun _ => none)
    (written (.bundle (workshopRequest format))) { disk := workshop }
  constructor
  · obtain ⟨-, _, hread, hcontains⟩ := contains_workshop (hends .container)
    cases hcontains with
    | container _ hdecode => exact ⟨_, hread, hdecode (by decide)⟩
  · obtain ⟨-, _, hread, hcontains⟩ := contains_workshop (hends .script)
    cases hcontains with
    | script _ hscript => exact ⟨_, hread, hscript⟩

end WasmBundle.Proofs
