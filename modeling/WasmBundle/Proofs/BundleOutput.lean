import WasmBundle.CommandLine.Report
import WasmBundle.Proofs.ContainerRoundTrip
import WasmBundle.Proofs.DiskWriting
import WasmBundle.Proofs.ScriptLayout

/-!
# What bundling leaves on the disk

Loading, walking and encoding only look at the disk, apart from what a compiler does that is run.
`Ensures` says of work that can fail what disk it leaves, and that it does not fail to write
something; it is kept when one thing is done after another. So everything is built before anything
is written, and the output is the first thing to be written.
-/

namespace WasmBundle.Proofs
open CommandLine Container

variable {α β : Type} {launch : Launcher} {s t : Session} {d : Disk}

/-- What work comes to that begins with a session. -/
def outcome {α : Type} (work : Attempt α) (s : Session) : Except Failure α × Session :=
  work.run.run s

lemma outcome_bind (x : Attempt α) (f : α → Attempt β) (s : Session) :
    outcome (x >>= f) s =
      match outcome x s with
      | (.ok a, t) => outcome (f a) t
      | (.error e, t) => (.error e, t) := by
  simp only [outcome, ExceptT.run_bind, StateT.run_bind]
  rcases StateT.run (ExceptT.run x) s with ⟨a | a, t⟩ <;> rfl

lemma outcome_orFail {ε : Type} (failure : ε → Failure) (work : OnDisk (Except ε α)) (s : Session) :
    outcome (orFail failure work) s = ((work.run s).1.mapError failure, (work.run s).2) := by
  simp only [outcome, orFail, ExceptT.run_mk, StateT.run_bind]
  rcases work.run s with ⟨a | a, t⟩ <;> rfl

lemma run_report (work : Attempt (List Span)) (s : Session) :
    (Attempt.report work).run s =
      match outcome work s with
      | (.ok shown, t) => ({ shown }, t)
      | (.error f, t) => ({ failure := some f }, t) := by
  simp only [outcome, Attempt.report, StateT.run_bind]
  rcases work.run.run s with ⟨a | a, t⟩ <;> rfl

/-- Work that leaves the disk as it is, with what it comes to. -/
def Looks (work : OnDisk α) (answer : Disk → α) : Prop :=
  ∀ s, (work.run s).1 = answer s.disk ∧ (work.run s).2.disk = s.disk

lemma looks_ask (questions : List Consultation) (answer : Disk → α) :
    Looks (OnDisk.ask questions answer) answer :=
  fun _ => ⟨rfl, rfl⟩

lemma looks_read (p : Path) : Looks (OnDisk.read p) fun d => d.read p := looks_ask _ _

lemma looks_pure (a : α) : Looks (pure a) fun _ => a := fun _ => ⟨rfl, rfl⟩

lemma looks_bind {work : OnDisk α} {answer : Disk → α} (hwork : Looks work answer)
    {next : α → OnDisk β} {answer' : α → Disk → β} (hnext : ∀ a, Looks (next a) (answer' a)) :
    Looks (work >>= next) fun d => answer' (answer d) d := by
  intro s
  obtain ⟨ha, hdisk⟩ := hwork s
  obtain ⟨hb, hdisk'⟩ := hnext (work.run s).1 (work.run s).2
  exact ⟨hb.trans (by rw [ha, hdisk]), hdisk'.trans hdisk⟩

/-- The text that was read from a file. -/
def textRead (read : Except IoError Bytes) : Except IoError String :=
  read.bind fun bytes => (Bytes.text? bytes).elim (.error .notText) .ok

lemma looks_readText (p : Path) : Looks (OnDisk.readText p) fun d => textRead (d.read p) := by
  refine looks_bind (looks_read p) fun read => (?_ : Looks _ fun _ => textRead read)
  cases read with
  | error e => exact looks_pure _
  | ok bytes =>
    cases hb : Bytes.text? bytes <;> simpa [textRead, Except.bind, hb] using looks_pure _

/-- The failure is none to write something. -/
def BeforeWriting (f : Failure) : Prop := ∀ path cause, f ≠ .unwritable path cause

/-- From a session on, work leaves a disk of one kind behind, does not fail to write something, and
gives something of one kind if it does not fail. -/
structure Ensures (work : Attempt α) (s : Session) (after : Disk → Prop) (given : Disk → α → Prop) :
    Prop where
  disk : after (outcome work s).2.disk
  failure : ∀ f, (outcome work s).1 = .error f → BeforeWriting f
  value : ∀ a, (outcome work s).1 = .ok a → given (outcome work s).2.disk a

variable {after after' : Disk → Prop} {before given given' : Disk → α → Prop}

lemma ensures_pure {a : α} (hs : after s.disk) (ha : given s.disk a) :
    Ensures (pure a) s after given where
  disk := hs
  failure _ h := nomatch h
  value _ h := by
    cases h
    exact ha

lemma Ensures.mono {work : Attempt α} (h : Ensures work s after given)
    (hafter : ∀ d, after d → after' d) (hgiven : ∀ d a, after d → given d a → given' d a) :
    Ensures work s after' given' where
  disk := hafter _ h.disk
  failure := h.failure
  value a ha := hgiven _ a h.disk (h.value a ha)

lemma Ensures.of_kept {work : Attempt α} (hs : after s.disk)
    (h : Ensures work s (· = s.disk) given) : Ensures work s after given :=
  h.mono (fun _ hd => hd ▸ hs) fun _ _ _ hg => hg

lemma Ensures.still {work : Attempt α} (hs : after s.disk)
    (h : Ensures work s (· = s.disk) given) :
    Ensures work s after fun d a => d = s.disk ∧ given d a :=
  h.mono (fun _ hd => hd ▸ hs) fun _ _ hd hg => ⟨hd, hg⟩

lemma Ensures.bind {x : Attempt α} {f : α → Attempt β} {given : Disk → β → Prop}
    (hx : Ensures x s after before)
    (hf : ∀ a t, after t.disk → before t.disk a → Ensures (f a) t after given) :
    Ensures (x >>= f) s after given := by
  obtain ⟨hdisk, hfailure, hvalue⟩ := hx
  rcases hs : outcome x s with ⟨e | a, t⟩
  · rw [hs] at hdisk hfailure
    have hbind : outcome (x >>= f) s = (.error e, t) := by rw [outcome_bind, hs]
    refine ⟨by rwa [hbind], fun g h => ?_, fun b h => ?_⟩
    · rw [hbind] at h
      cases h
      exact hfailure e rfl
    · rw [hbind] at h
      cases h
  · rw [hs] at hdisk hvalue
    have hbind : outcome (x >>= f) s = outcome (f a) t := by rw [outcome_bind, hs]
    obtain ⟨hdisk', hfailure', hvalue'⟩ := hf a t hdisk (hvalue a rfl)
    exact ⟨by rwa [hbind], by rwa [hbind], by rwa [hbind]⟩

lemma ensures_of_run {ε : Type} {failure : ε → Failure} (hfailure : ∀ e, BeforeWriting (failure e))
    {work : OnDisk (Except ε α)} {result : Except ε α} (hresult : (work.run s).1 = result)
    (hdisk : (work.run s).2.disk = d) :
    Ensures (orFail failure work) s (· = d) fun _ a => result = .ok a := by
  have hs : outcome (orFail failure work) s = (result.mapError failure, (work.run s).2) := by
    rw [outcome_orFail, hresult]
  cases result with
  | error e =>
    refine ⟨by rwa [hs], fun f h => ?_, fun a h => ?_⟩
    · rw [hs] at h
      cases h
      exact hfailure e
    · rw [hs] at h
      cases h
  | ok a =>
    refine ⟨by rwa [hs], fun f h => ?_, fun b h => ?_⟩
    · rw [hs] at h
      cases h
    · rw [hs] at h
      cases h
      rfl

/-- Work that leaves the disk as it is gives its answer or fails. -/
lemma ensures_orFail {ε : Type} {failure : ε → Failure} (hfailure : ∀ e, BeforeWriting (failure e))
    {work : OnDisk (Except ε α)} {answer : Disk → Except ε α} (hwork : Looks work answer)
    (s : Session) :
    Ensures (orFail failure work) s (· = s.disk) fun d a => answer d = .ok a := by
  refine (ensures_of_run hfailure (hwork s).1 (hwork s).2).mono (fun _ h => h) ?_
  rintro d a rfl ha
  exact ha

/-- Nothing is known about what the work gives. -/
abbrev Quiet (work : Attempt α) : Prop := ∀ s, Ensures work s (· = s.disk) fun _ _ => True

lemma quiet_orFail {ε : Type} {failure : ε → Failure} (hfailure : ∀ e, BeforeWriting (failure e))
    {work : OnDisk (Except ε α)} {answer : Disk → Except ε α} (hwork : Looks work answer) :
    Quiet (orFail failure work) :=
  fun s => (ensures_orFail hfailure hwork s).mono (fun _ h => h) fun _ _ _ _ => trivial

lemma quiet_bind {x : Attempt α} {f : α → Attempt β} (hx : Quiet x) (hf : ∀ a, Quiet (f a)) :
    Quiet (x >>= f) :=
  fun s => (hx s).bind fun a t ht _ => ht ▸ hf a t

lemma quiet_loadConfig (path : Path) : Quiet (loadConfig path) :=
  quiet_orFail (fun _ _ _ => by simp) (looks_ask _ _)

lemma quiet_configAt (file : Option Path) (dir : Path) : Quiet (configAt file dir) := by
  cases file with
  | some path => exact quiet_loadConfig path
  | none =>
    have hnearest : Quiet (liftM (nearestConfig dir)) :=
      fun s => ⟨rfl, nofun, fun _ _ => trivial⟩
    refine quiet_bind hnearest fun found => ?_
    cases found with
    | some path => exact quiet_loadConfig path
    | none => exact fun s => ensures_pure rfl trivial

lemma quiet_configure (source : Path) (o : Overrides) : Quiet (configure source o) := by
  refine quiet_bind (quiet_configAt _ _) fun c => ?_
  refine quiet_bind (quiet_orFail (fun _ _ _ => by simp) (looks_pure _)) fun _ => ?_
  exact fun s => ensures_pure rfl trivial

/-- The disk as it was, or as a compiler of the source has left it. -/
inductive LeftBy (launch : Launcher) (source : Path) (d : Disk) : Disk → Prop
  | unused : LeftBy launch source d d
  | used {compiler : Path} {s : Session} (hsource : isCompiled source = false) (hs : s.disk = d) :
      LeftBy launch source d ((launch compiler [Bytes.utf8 "compile", source.bytes]).run s).2.disk

/-- Where the root module is read. -/
def rootModule (source : Path) : Path :=
  if isCompiled source then source else compiledPath source

/-- A program that was loaded from a disk: its settings are those that were found before a compiler
was run, and its root module is that of the source. -/
structure Loaded (s : Session) (source : Path) (o : Overrides) (d : Disk) (program : Program) :
    Prop where
  config : (outcome (configure source o) s).1 = .ok program.config
  installation : program.config.installation = .ok program.installation
  searchPath : program.config.searchPath source = .ok program.searchPath
  root : d.read (rootModule source) = .ok program.root

/-- The bytes are the whole of a bundle in the form that was asked for: a script laid out for it, or
a container of all its fields. The bundle is read back from either; from a container only if the
length of every module fits in eight bytes. -/
inductive Contains (b : Bundle) : OutputFormat → Bytes → Prop
  | script {registrations : List String} {buffer text : String}
      (layout : Laid b registrations buffer text) (read : readScript? text = some b) :
      Contains b .script (Bytes.utf8 text)
  | container {bytes : Bytes} (layout : bytes = withHeader checksum (payloadBytes b))
      (read : (∀ m ∈ b.root :: b.modules.entries.map Prod.snd, m.length < UInt64.size) →
        decode bytes = .ok b) : Contains b .container bytes

lemma contains_of_encodeAs {format : OutputFormat} {b : Bundle} {bytes : Bytes}
    (h : encodeAs format b = .ok bytes) : Contains b format bytes := by
  cases format with
  | script =>
    cases h
    exact .script (laid_render b) (readScript?_of_laid (laid_render b))
  | container =>
    obtain ⟨hsizes, rfl⟩ := eq_of_encodeWith h
    refine .container rfl fun hm => ?_
    obtain ⟨hroot, hblobs⟩ := List.forall_mem_cons.1 hm
    have hfits : Fits b := ⟨hsizes.shim, hsizes.count, hsizes.names,
      List.forall_mem_map.1 hblobs, hroot⟩
    exact (decodeWith_encodeWith checksum hfits).2

/-- What bundling writes is the whole of the bundle of the program that was asked for, with the shim
and all modules that the program needs as they are on the disk. -/
structure Built (s : Session) (r : BundleRequest) (d : Disk) (product : Product) (program : Program)
    (shim : String) (b : Bundle) : Prop where
  loaded : Loaded s r.source r.overrides d program
  shimPath : product.shim = r.shim.getD program.installation.runtimeShim
  shimText : textRead (d.read product.shim) = .ok shim
  bundle : (WasmBundle.bundle d.source program.config.conventions program.config.strategy
    program.searchPath shim program.root).answer = .ok (b, product.report)
  bytes : Contains b r.format product.bytes
  modules : product.modules = b.modules.size

/-- What a compiler that was run has come to. -/
def compiled (compiler source : Path) (result : Except IoError Finished) (d : Disk) :
    Except CompileError Bytes :=
  match result with
  | .error e => .error (.spawn compiler e)
  | .ok finished =>
    if finished.success then (d.read (compiledPath source)).mapError (.output (compiledPath source))
    else .error (.failed source (String.ofList (trimWhiteSpace finished.errors.shown.toList)))

/-- Compiling changes nothing but what the compiler does. -/
lemma run_compile (launch : Launcher) (compiler source : Path) (s : Session) :
    ((compile launch compiler source).run s).1 =
        compiled compiler source ((launch compiler [Bytes.utf8 "compile", source.bytes]).run s).1
          ((launch compiler [Bytes.utf8 "compile", source.bytes]).run s).2.disk ∧
      ((compile launch compiler source).run s).2.disk =
        ((launch compiler [Bytes.utf8 "compile", source.bytes]).run s).2.disk := by
  simp only [compile, StateT.run_bind, compiled]
  rcases (launch compiler [Bytes.utf8 "compile", source.bytes]).run s with
    ⟨e | ⟨success, output, errors⟩, t⟩
  · exact looks_pure _ t
  · cases success with
    | false => exact looks_pure _ t
    | true =>
      refine looks_bind (looks_read _) (fun read =>
        (?_ : Looks _ fun _ => read.mapError (CompileError.output (compiledPath source)))) t
      cases read <;> exact looks_pure _

lemma read_of_compiled {compiler source : Path} {result : Except IoError Finished} {bytes : Bytes}
    (h : compiled compiler source result d = .ok bytes) :
    d.read (compiledPath source) = .ok bytes := by
  unfold compiled at h
  split at h
  · cases h
  · split at h
    · cases hread : d.read (compiledPath source) with
      | error e =>
        rw [hread] at h
        cases h
      | ok b =>
        rw [hread] at h
        cases h
        rfl
    · cases h

lemma ensures_loadRoot (launch : Launcher) (i : Installation) (source : Path) (s : Session) :
    Ensures (loadRoot launch i source) s (LeftBy launch source s.disk) fun d root =>
      d.read (rootModule source) = .ok root := by
  unfold loadRoot rootModule
  by_cases hsource : isCompiled source = true
  · rw [if_pos hsource, if_pos hsource]
    refine (ensures_orFail (fun _ _ _ => by simp) (looks_read source) s).mono ?_ fun _ _ _ h => h
    rintro d rfl
    exact .unused
  · obtain ⟨hanswer, hdisk⟩ := run_compile launch i.compiler source s
    rw [if_neg hsource, if_neg hsource]
    refine (ensures_of_run (fun _ _ _ => by simp) hanswer hdisk).mono ?_ ?_
    · rintro d rfl
      exact .used (by simpa using hsource) rfl
    · rintro d bytes rfl h
      exact read_of_compiled h

lemma ensures_loadProgram (launch : Launcher) (source : Path) (o : Overrides) (s : Session) :
    Ensures (loadProgram launch source o) s (LeftBy launch source s.disk)
      (Loaded s source o) := by
  have hconfig : Ensures (configure source o) s (· = s.disk) fun _ c =>
      (outcome (configure source o) s).1 = .ok c :=
    ⟨(quiet_configure source o s).disk, (quiet_configure source o s).failure, fun _ h => h⟩
  have hsetting : ∀ {γ : Type} (e : Except ConfigError γ) (t : Session),
      Ensures (orFail .setting (pure e)) t (· = t.disk) fun _ a => e = .ok a :=
    fun e => ensures_orFail (fun _ _ _ => by simp) (looks_pure e)
  refine (hconfig.still .unused).bind fun c t hleft ⟨ht, hc⟩ => ?_
  refine ((hsetting c.installation t).still hleft).bind fun i u hleft ⟨hu, hi⟩ => ?_
  refine ((hsetting (c.searchPath source) u).still hleft).bind fun path v _ ⟨hv, hpath⟩ => ?_
  rw [← ht, ← hu, ← hv]
  exact (ensures_loadRoot launch i source v).bind fun root x hx hroot =>
    ensures_pure hx ⟨hc, hi, hpath, hroot⟩

/-- Bundling changes nothing but what the compiler does as long as it builds, and what it builds is
an encoded bundle. -/
theorem ensures_build (launch : Launcher) (r : BundleRequest) (s : Session) :
    Ensures (build launch r) s (LeftBy launch r.source s.disk) fun d product =>
      ∃ program shim b, Built s r d product program shim b := by
  refine (ensures_loadProgram launch r.source r.overrides s).bind fun program t ht hloaded => ?_
  refine .of_kept ht ?_
  refine (ensures_orFail (fun _ _ _ => by simp) (looks_readText _) t).bind
    fun shim u hu hshim => ?_
  have hbundle : Ensures (program.bundle shim) u (· = u.disk) fun d built =>
      (bundle d.source program.config.conventions program.config.strategy program.searchPath shim
        program.root).answer = .ok built :=
    ensures_orFail (fun _ _ _ => by simp) (fun s => ⟨rfl, rfl⟩) u
  rw [← hu] at hloaded ⊢
  refine hbundle.bind fun ⟨b, report⟩ v hv hbuilt => ?_
  rw [← hv] at hloaded hshim ⊢
  have hencode : Ensures (orFail .tooLarge (pure (encodeAs r.format b))) v (· = v.disk)
      fun _ bytes => encodeAs r.format b = .ok bytes :=
    ensures_orFail (fun _ _ _ => by simp) (looks_pure _) v
  refine hencode.bind fun bytes x hx hbytes => ensures_pure hx ⟨program, shim, b, ?_⟩
  rw [← hx] at hloaded hshim hbuilt
  exact ⟨hloaded, rfl, hshim, hbuilt, contains_of_encodeAs hbytes, rfl⟩

/-- From a session on, work gives something and leaves the disk as it was. -/
def Gives (work : Attempt α) (s : Session) (a : α) : Prop :=
  (outcome work s).1 = .ok a ∧ (outcome work s).2.disk = s.disk

lemma gives_pure (a : α) (s : Session) : Gives (pure a) s a := ⟨rfl, rfl⟩

lemma Gives.bind {x : Attempt α} {f : α → Attempt β} {a : α} {b : β} (hx : Gives x s a)
    (hf : ∀ t, t.disk = s.disk → Gives (f a) t b) : Gives (x >>= f) s b := by
  obtain ⟨ha, hdisk⟩ := hx
  obtain ⟨hb, hdisk'⟩ := hf _ hdisk
  have hbind : outcome (x >>= f) s = outcome (f a) (outcome x s).2 := by
    rw [outcome_bind]
    generalize outcome x s = o at ha
    obtain ⟨o, t⟩ := o
    cases ha
    rfl
  exact ⟨by rw [hbind, hb], by rw [hbind, hdisk', hdisk]⟩

lemma gives_orFail {ε : Type} {failure : ε → Failure} {work : OnDisk (Except ε α)}
    {answer : Disk → Except ε α} {a : α} (hwork : Looks work answer) (h : answer s.disk = .ok a) :
    Gives (orFail failure work) s a := by
  obtain ⟨hanswer, hdisk⟩ := hwork s
  have hs : outcome (orFail failure work) s = (.ok a, (work.run s).2) := by
    rw [outcome_orFail, hanswer, h]
    rfl
  exact ⟨by rw [hs], by rwa [hs]⟩

/-- Without a configuration file, the settings are the defaults with the overrides. -/
lemma gives_configure {source : Path} {o : Overrides} (hfile : o.config = none)
    (hnone : Config.find? s.disk.isFile (SearchPath.sourceDirectory source) = none)
    (hvalid : (o.apply {}).validate = .ok ()) : Gives (configure source o) s (o.apply {}) := by
  have hnearest : Gives (liftM (nearestConfig (SearchPath.sourceDirectory source))) s none :=
    ⟨congrArg Except.ok hnone, rfl⟩
  have hconfig : Gives (configAt o.config (SearchPath.sourceDirectory source)) s {} := by
    rw [hfile]
    exact hnearest.bind fun t _ => gives_pure _ t
  refine hconfig.bind fun t _ => ?_
  exact (gives_orFail (looks_pure _) hvalid).bind fun u _ => gives_pure _ u

lemma gives_loadProgram {source : Path} {o : Overrides} {program : Program}
    (hsource : isCompiled source = true) (hconfig : Gives (configure source o) s program.config)
    (h : Loaded s source o s.disk program) : Gives (loadProgram launch source o) s program := by
  obtain ⟨config, installation, searchPath, root⟩ := program
  obtain ⟨-, hinstallation, hpath, hroot⟩ := h
  rw [rootModule, if_pos hsource] at hroot
  refine hconfig.bind fun t ht => ?_
  refine (gives_orFail (looks_pure _) hinstallation).bind fun u hu => ?_
  refine (gives_orFail (looks_pure _) hpath).bind fun v hv => ?_
  rw [loadRoot, if_pos hsource]
  exact (gives_orFail (looks_read source) (by rwa [hv, hu, ht])).bind fun w _ => gives_pure _ w

/-- A program that is loaded is built if the shim is a text, the walk succeeds and the bundle can be
encoded. -/
theorem gives_build {r : BundleRequest} {program : Program} {shim : String} {b : Bundle}
    {report : List Path} {bytes : Bytes}
    (hprogram : Gives (loadProgram launch r.source r.overrides) s program)
    (hshim : textRead (s.disk.read (r.shim.getD program.installation.runtimeShim)) = .ok shim)
    (hbundle : (WasmBundle.bundle s.disk.source program.config.conventions program.config.strategy
      program.searchPath shim program.root).answer = .ok (b, report))
    (hencode : encodeAs r.format b = .ok bytes) :
    Gives (build launch r) s
      ⟨bytes, b.modules.size, r.shim.getD program.installation.runtimeShim, report⟩ := by
  refine hprogram.bind fun t ht => ?_
  rw [← ht] at hshim hbundle
  refine (gives_orFail (looks_readText _) hshim).bind fun u hu => ?_
  rw [← hu] at hbundle
  have hbuilt : Gives (program.bundle shim) u (b, report) := by
    refine gives_orFail (?_ : Looks _ fun d => (WasmBundle.bundle d.source
      program.config.conventions program.config.strategy program.searchPath shim
      program.root).answer) hbundle
    exact fun s => ⟨rfl, rfl⟩
  refine hbuilt.bind fun v _ => ?_
  exact (gives_orFail (looks_pure _) hencode).bind fun w _ => gives_pure _ w

/-- The text of the dependency file. -/
def ruleBytes (r : BundleRequest) (p : Product) : Bytes :=
  Bytes.utf8 (DependencyRule.render r.outputPath p.shim p.report)

/-- How bundling ends once the output is on the disk: all that is left to do is to write the
dependency file, which leaves the output alone unless it leads to the same file. -/
inductive DeliveryEnds (r : BundleRequest) (p : Product) (d : Disk) : Report → Disk → Prop
  | done (hfile : r.dependencyFile = none) : DeliveryEnds r p d { shown := bundleShown r p } d
  | unruled {file : Path} {e : IoError} (hfile : r.dependencyFile = some file)
      (hwrite : d.write file (ruleBytes r p) = .error e) :
      DeliveryEnds r p d { failure := some (.unwritable file e) } d
  | ruled {file : Path} {d' : Disk} (hfile : r.dependencyFile = some file)
      (hwrite : d.write file (ruleBytes r p) = .ok d')
      (hkept : ∀ n f, d.find r.outputPath = .ok (.file n f) →
        d'.find r.outputPath = .ok (.file n f) ∨ d.find file = .ok (.file n f)) :
      DeliveryEnds r p d { shown := bundleShown r p } d'

/-- How bundling ends from the disk that the compiler has left: nothing is written before all is
built, the output is written first and once, and then holds what was built. -/
inductive BundleEnds (launch : Launcher) (r : BundleRequest) (s : Session) (d : Disk) :
    Report → Disk → Prop
  | unbuilt {f : Failure} (hbuild : (outcome (build launch r) s).1 = .error f)
      (hf : BeforeWriting f) : BundleEnds launch r s d { failure := some f } d
  | unwritten {product : Product} {program : Program} {shim : String} {b : Bundle} {e : IoError}
      (hbuilt : Built s r d product program shim b)
      (hwrite : d.write r.outputPath product.bytes = .error e) :
      BundleEnds launch r s d { failure := some (.unwritable r.outputPath e) } d
  | delivered {product : Product} {program : Program} {shim : String} {b : Bundle}
      {d' d'' : Disk} {report : Report} (hbuilt : Built s r d product program shim b)
      (hwrite : d.write r.outputPath product.bytes = .ok d')
      (htook : Took d d' r.outputPath product.bytes)
      (hends : DeliveryEnds r product d' report d'') : BundleEnds launch r s d report d''

lemma run_write (p : Path) (bytes : Bytes) (s : Session) :
    (∃ e t, s.disk.write p bytes = .error e ∧ t.disk = s.disk ∧
      (OnDisk.write p bytes).run s = (.error e, t)) ∨
    ∃ t, s.disk.write p bytes = .ok t.disk ∧ (OnDisk.write p bytes).run s = (.ok (), t) := by
  have hask : (OnDisk.ask [.reading p] fun d => d.write p bytes).run s =
      (s.disk.write p bytes, { s with consulted := s.consulted ++ [.reading p] }) := rfl
  simp only [OnDisk.write, OnDisk.change, StateT.run_bind, hask]
  cases s.disk.write p bytes with
  | error e => exact .inl ⟨e, { s with consulted := s.consulted ++ [.reading p] }, rfl, rfl, rfl⟩
  | ok d => exact .inr ⟨{ disk := d, consulted := s.consulted ++ [.reading p] }, rfl, rfl⟩

lemma outcome_write (failure : IoError → Failure) (p : Path) (bytes : Bytes) (s : Session) :
    (∃ e t, s.disk.write p bytes = .error e ∧ t.disk = s.disk ∧
      outcome (orFail failure (OnDisk.write p bytes)) s = (.error (failure e), t)) ∨
    ∃ t, s.disk.write p bytes = .ok t.disk ∧
      outcome (orFail failure (OnDisk.write p bytes)) s = (.ok (), t) := by
  rcases run_write p bytes s with ⟨e, t, hw, ht, hrun⟩ | ⟨t, hw, hrun⟩
  · exact .inl ⟨e, t, hw, ht, by rw [outcome_orFail, hrun]; rfl⟩
  · exact .inr ⟨t, hw, by rw [outcome_orFail, hrun]; rfl⟩

/-- Bundling leaves the disk as the compiler has left it until all is built. Then it writes the
output once, which holds what was built, and after that only the dependency file. -/
theorem ends_of_runBundle (launch : Launcher) (r : BundleRequest) (s : Session) :
    ∃ d, LeftBy launch r.source s.disk d ∧
      BundleEnds launch r s d ((runBundle launch r).run s).1
        ((runBundle launch r).run s).2.disk := by
  obtain ⟨hleft, hfailure, hvalue⟩ := ensures_build launch r s
  refine ⟨(outcome (build launch r) s).2.disk, hleft, ?_⟩
  rw [runBundle, run_report, outcome_bind]
  rcases hbuild : outcome (build launch r) s with ⟨f | product, t⟩
  · rw [hbuild] at hfailure
    exact .unbuilt (by rw [hbuild]) (hfailure f rfl)
  · rw [hbuild] at hvalue
    obtain ⟨program, shim, b, hbuilt⟩ := hvalue product rfl
    dsimp only at hbuilt ⊢
    rw [outcome_bind, deliver, outcome_bind]
    -- All that is left writes: first the output, then perhaps the dependency file.
    rcases outcome_write (.unwritable r.outputPath) r.outputPath product.bytes t with
      ⟨e, u, hwrite, hu, hout⟩ | ⟨u, hwrite, hout⟩
    · rw [hout]
      rw [← hu] at hbuilt hwrite ⊢
      exact .unwritten hbuilt hwrite
    · rw [hout]
      refine .delivered hbuilt hwrite (took_of_write hwrite) ?_
      cases hfile : r.dependencyFile with
      | none => exact .done hfile
      | some file =>
        rcases outcome_write (.unwritable file) file (ruleBytes r product) u with
          ⟨e, v, hrule, hv, hout⟩ | ⟨v, hrule, hout⟩
        · dsimp only
          rw [← ruleBytes, hout]
          dsimp only
          rw [hv]
          exact .unruled hfile hrule
        · dsimp only
          rw [← ruleBytes, hout]
          exact .ruled hfile hrule fun n f hp => find_of_write_other hrule hp

end WasmBundle.Proofs
