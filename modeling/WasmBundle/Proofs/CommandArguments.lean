import Mathlib.Tactic.Lemma
import WasmBundle.CommandLine.Arguments

/-!
# Arguments for requests

The requests that arguments make are those in which no path is empty. `written` puts a request down
with each value attached to its option and with the operand behind all options; these arguments are
read back as that request, whatever bytes its paths have. In the other direction `Spelled` says that
no path in settings is empty, and every item keeps it.
-/

namespace WasmBundle.Proofs
open CommandLine

/-- An option with its value attached. -/
def attach (o : Opt) (value : Bytes) : Bytes :=
  dash :: dash :: (Bytes.utf8 o.long ++ equalsSign :: value)

lemma equalsSign_not_mem_long (o : Opt) : equalsSign ∉ Bytes.utf8 o.long := by
  cases o <;> decide

lemma isLong_iff {o other : Opt} : other.isLong (Bytes.utf8 o.long) = true ↔ other = o := by
  cases o <;> cases other <;> decide

lemma find?_isLong {known : List Opt} {o : Opt} (h : o ∈ known) :
    known.find? (·.isLong (Bytes.utf8 o.long)) = some o := by
  obtain ⟨found, hfound⟩ := Option.isSome_iff_exists.1
    (List.find?_isSome (p := fun other : Opt => other.isLong (Bytes.utf8 o.long)).2
      ⟨o, h, isLong_iff.2 rfl⟩)
  have hlong := List.find?_some hfound
  rw [hfound, isLong_iff.1 hlong]

/-- The value goes up to the end of the argument, equals signs and all. -/
lemma readArgument_attach {known : List Opt} {o : Opt} (h : o ∈ known)
    (hvalue : o.takesValue = true) (value : Bytes) (rest : List Bytes) :
    readArgument known (attach o value) rest = ([.setting o value], rest) := by
  have hbefore : ∀ c ∈ Bytes.utf8 o.long, decide (c ≠ equalsSign) = true := fun c hc =>
    decide_eq_true fun heq => equalsSign_not_mem_long o (heq ▸ hc)
  have hname : (Bytes.utf8 o.long ++ equalsSign :: value).takeWhile (· ≠ equalsSign) =
      Bytes.utf8 o.long := by
    rw [List.takeWhile_append_of_pos hbefore, List.takeWhile_cons_of_neg (by simp),
      List.append_nil]
  have hattached : attached? (Bytes.utf8 o.long ++ equalsSign :: value) = some value := by
    rw [attached?, List.dropWhile_append_of_pos hbefore, List.dropWhile_cons_of_neg (by simp)]
  simp only [attach, readArgument, readLong, hname, hattached, find?_isLong h, hvalue, ne_eq,
    not_true_eq_false, if_false, if_true]

lemma readAll_operand (known : List Opt) (operand : Bytes) :
    readAll known [endOfOptions, operand] = [.operand operand] := by
  rw [readAll, if_pos rfl]
  rfl

/-- The options are known and take values. -/
def Valued (known : List Opt) (settings : List (Opt × Bytes)) : Prop :=
  ∀ x ∈ settings, x.1 ∈ known ∧ x.1.takesValue = true

lemma readAll_attach {known : List Opt} {settings : List (Opt × Bytes)} (h : Valued known settings)
    (rest : List Bytes) :
    readAll known (settings.map (fun x => attach x.1 x.2) ++ rest) =
      settings.map (fun x => .setting x.1 x.2) ++ readAll known rest := by
  induction settings with
  | nil => rfl
  | cons x settings ih =>
    obtain ⟨hx, hsettings⟩ := List.forall_mem_cons.1 h
    have hread := readArgument_attach hx.1 hx.2 x.2
      (settings.map (fun x => attach x.1 x.2) ++ rest)
    have hoption : attach x.1 x.2 ≠ endOfOptions := by simp [attach, endOfOptions]
    rw [List.map_cons, List.cons_append, readAll, if_neg hoption, hread, ih hsettings]
    rfl

/-- The setting of an option, if there is a value for it. -/
def setting {α : Type} (o : Opt) (write : α → Bytes) (a : Option α) : List (Opt × Bytes) :=
  a.toList.map fun x => (o, write x)

/-- The settings that a request makes beside its operand. -/
def overridingSettings (o : Overrides) : List (Opt × Bytes) :=
  setting .config Path.bytes o.config ++ setting .grainHome Path.bytes o.grainHome ++
    o.includeDirs.map (fun dir => (Opt.includeDir, dir.bytes)) ++
    setting .resolve (Bytes.utf8 ∘ strategyName) o.strategy

def settingsOf : Request → List (Opt × Bytes)
  | .bundle r =>
    overridingSettings r.overrides ++ setting .output Path.bytes r.output ++
      setting .format (Bytes.utf8 ∘ formatName) (some r.format) ++
      setting .shim Path.bytes r.shim ++ setting .dependencyFile Path.bytes r.dependencyFile
  | .imports _ config => setting .config Path.bytes config
  | .resolve _ o => overridingSettings o
  | .inspect _ => []

def commandOf : Request → Command
  | .bundle _ => .bundle
  | .imports _ _ => .imports
  | .resolve _ _ => .resolve
  | .inspect _ => .inspect

def operandOf : Request → Path
  | .bundle r => r.source
  | .imports binary _ => binary
  | .resolve source _ => source
  | .inspect container => container

/-- The arguments that make a request. -/
def written (r : Request) : List Bytes :=
  Bytes.utf8 (commandOf r).name ::
    ((settingsOf r).map (fun x => attach x.1 x.2) ++ [endOfOptions, (operandOf r).bytes])

/-- The paths in a request. -/
def overridingPaths (o : Overrides) : List Path :=
  o.config.toList ++ o.grainHome.toList ++ o.includeDirs

def pathsOf : Request → List Path
  | .bundle r =>
    r.source :: (overridingPaths r.overrides ++ r.output.toList ++ r.shim.toList ++
      r.dependencyFile.toList)
  | .imports binary config => binary :: config.toList
  | .resolve source o => source :: overridingPaths o
  | .inspect container => [container]

lemma path?_bytes {p : Path} (h : p.isEmpty = false) : path? p.bytes = some p := by
  have hbytes : ¬p.bytes.isEmpty = true := by simpa [Path.isEmpty] using h
  rw [path?, if_neg hbytes]

/-- The options with their values make the second settings of the first. -/
def Makes (l : List (Opt × Bytes)) (s t : Settings) : Prop :=
  l.foldlM (fun s x => s.set x.1 x.2) s = .ok t

lemma Makes.append {l l' : List (Opt × Bytes)} {s t u : Settings} (h : Makes l s t)
    (h' : Makes l' t u) : Makes (l ++ l') s u := by
  rw [Makes, List.foldlM_append, h]
  exact h'

lemma makes_setting {α : Type} {o : Opt} {write : α → Bytes} {a : Option α} {s t : Settings}
    (hnone : a = none → s = t) (hsome : ∀ x, a = some x → s.set o (write x) = .ok t) :
    Makes (setting o write a) s t := by
  cases a with
  | none => exact congrArg Except.ok (hnone rfl)
  | some x =>
    have hset := hsome x rfl
    simp only [Makes, setting, Option.toList_some, List.map_singleton, List.foldlM_cons, hset]
    rfl

lemma makes_includeDirs {dirs : List Path} (h : ∀ dir ∈ dirs, dir.isEmpty = false)
    (s : Settings) :
    Makes (dirs.map fun dir => (Opt.includeDir, dir.bytes)) s { s with
      overrides := { s.overrides with includeDirs := s.overrides.includeDirs ++ dirs } } := by
  induction dirs generalizing s with
  | nil =>
    rw [List.append_nil]
    rfl
  | cons dir dirs ih =>
    obtain ⟨hdir, hdirs⟩ := List.forall_mem_cons.1 h
    have hlater := ih hdirs { s with
      overrides := { s.overrides with includeDirs := s.overrides.includeDirs ++ [dir] } }
    rw [List.append_assoc, List.singleton_append] at hlater
    simp only [Makes, List.map_cons, List.foldlM_cons, Settings.set, path?_bytes hdir]
    exact hlater

/-- A path is set where none has been set. -/
lemma once_path {o : Opt} {p : Path} (h : p.isEmpty = false) :
    once o path? p.bytes none = .ok (some p) := by
  simp only [once, path?_bytes h]

lemma format?_name (f : OutputFormat) : format? (Bytes.utf8 (formatName f)) = some f := by
  cases f <;> decide

lemma strategy?_name (s : ResolveStrategy) : strategy? (Bytes.utf8 (strategyName s)) = some s := by
  cases s <;> decide

lemma ofName?_name (c : Command) : Command.ofName? (Bytes.utf8 c.name) = some c := by
  cases c <;> decide

lemma makes_overrides {o : Overrides} (h : ∀ p ∈ overridingPaths o, p.isEmpty = false)
    {s : Settings} (hs : s.overrides = {}) :
    Makes (overridingSettings o) s { s with overrides := o } := by
  obtain ⟨config, grainHome, includeDirs, strategy⟩ := o
  simp only [overridingPaths, List.forall_mem_append, Option.mem_toList] at h
  obtain ⟨⟨hconfig, hhome⟩, hdirs⟩ := h
  have hconfigSet : Makes (setting .config Path.bytes config) s
      { s with overrides := { config } } := by
    refine makes_setting (fun hnone => by rw [hnone, ← hs]) fun p hp => ?_
    simp only [Settings.set, hs, once_path (hconfig p hp), hp]
    rfl
  have hhomeSet : Makes (setting .grainHome Path.bytes grainHome)
      { s with overrides := { config } } { s with overrides := { config, grainHome } } := by
    refine makes_setting (fun hnone => by rw [hnone]) fun p hp => ?_
    simp only [Settings.set, once_path (hhome p hp), hp]
    rfl
  have hstrategySet : Makes (setting .resolve (Bytes.utf8 ∘ strategyName) strategy)
      { s with overrides := { config, grainHome, includeDirs } }
      { s with overrides := { config, grainHome, includeDirs, strategy } } := by
    refine makes_setting (fun hnone => by rw [hnone]) fun x hx => ?_
    simp only [Settings.set, Function.comp_apply, once, strategy?_name, hx]
    rfl
  exact ((hconfigSet.append hhomeSet).append (makes_includeDirs hdirs _)).append hstrategySet

/-- A request is made of what its arguments set. -/
lemma exists_settings (r : Request) (h : ∀ p ∈ pathsOf r, p.isEmpty = false) :
    ∃ s : Settings, Makes (settingsOf r) {} s ∧ s.operand = none ∧ s.color = none ∧
      ∀ p, (commandOf r).request (operandOf r) { s with operand := p } = r := by
  cases r with
  | inspect container => exact ⟨{}, rfl, rfl, rfl, fun _ => rfl⟩
  | resolve source o =>
    obtain ⟨-, ho⟩ := List.forall_mem_cons.1 h
    exact ⟨_, makes_overrides ho rfl, rfl, rfl, fun _ => rfl⟩
  | imports binary config =>
    obtain ⟨-, hconfig⟩ := List.forall_mem_cons.1 h
    refine ⟨{ overrides := { config } }, ?_, rfl, rfl, fun _ => rfl⟩
    refine makes_setting (fun hnone => by rw [hnone]) fun p hp => ?_
    simp only [Settings.set, once_path (hconfig p (Option.mem_toList.2 hp)), hp]
    rfl
  | bundle r =>
    obtain ⟨source, output, format, shim, dependencyFile, o⟩ := r
    simp only [pathsOf, List.forall_mem_cons, List.forall_mem_append, Option.mem_toList] at h
    obtain ⟨-, ⟨⟨ho, houtput⟩, hshim⟩, hfile⟩ := h
    have hoverrides := makes_overrides (s := {}) ho rfl
    have houtputSet : Makes (setting .output Path.bytes output) { overrides := o }
        { overrides := o, output } := by
      refine makes_setting (fun hnone => by rw [hnone]) fun p hp => ?_
      simp only [Settings.set, once_path (houtput p hp), hp]
      rfl
    have hformatSet : Makes (setting .format (Bytes.utf8 ∘ formatName) (some format))
        { overrides := o, output } { overrides := o, output, format := some format } := by
      refine makes_setting (fun hnone => nomatch hnone) fun x hx => ?_
      cases hx
      simp only [Settings.set, Function.comp_apply, once, format?_name]
      rfl
    have hshimSet : Makes (setting .shim Path.bytes shim)
        { overrides := o, output, format := some format }
        { overrides := o, output, format := some format, shim } := by
      refine makes_setting (fun hnone => by rw [hnone]) fun p hp => ?_
      simp only [Settings.set, once_path (hshim p hp), hp]
      rfl
    have hfileSet : Makes (setting .dependencyFile Path.bytes dependencyFile)
        { overrides := o, output, format := some format, shim }
        { overrides := o, output, format := some format, shim, dependencyFile } := by
      refine makes_setting (fun hnone => by rw [hnone]) fun p hp => ?_
      simp only [Settings.set, once_path (hfile p hp), hp]
      rfl
    have hall := ((hoverrides.append houtputSet).append hformatSet).append hshimSet
    exact ⟨_, hall.append hfileSet, rfl, rfl, fun _ => rfl⟩

lemma readArgument_name (c : Command) (rest : List Bytes) :
    readArgument programOptions (Bytes.utf8 c.name) rest =
      ([.operand (Bytes.utf8 c.name)], rest) := by
  cases c <;> rfl

lemma valued_setting {α : Type} {known : List Opt} {o : Opt} (ho : o ∈ known)
    (hvalue : o.takesValue = true) (write : α → Bytes) (a : Option α) :
    Valued known (setting o write a) := by
  intro x hx
  obtain ⟨y, -, rfl⟩ := List.mem_map.1 hx
  exact ⟨ho, hvalue⟩

lemma valued_overrides {known : List Opt} (h : overrideOptions ⊆ known) (o : Overrides) :
    Valued known (overridingSettings o) := by
  have hincludes : Valued known (o.includeDirs.map fun dir => (Opt.includeDir, dir.bytes)) := by
    intro x hx
    obtain ⟨dir, -, rfl⟩ := List.mem_map.1 hx
    have hdir : Opt.includeDir ∈ overrideOptions := by decide
    exact ⟨h hdir, rfl⟩
  simp only [Valued, overridingSettings, List.forall_mem_append]
  refine ⟨⟨⟨?_, ?_⟩, hincludes⟩, ?_⟩
  all_goals exact valued_setting (h (by decide)) rfl _ _

/-- A request is made by options of its command. -/
lemma valued_settings (r : Request) : Valued (commandOf r).options (settingsOf r) := by
  cases r with
  | inspect container => exact fun _ hx => nomatch hx
  | resolve source o =>
    have hshared : overrideOptions ⊆ Command.resolve.options := by decide
    exact valued_overrides hshared o
  | imports binary config =>
    have hconfig : Opt.config ∈ Command.imports.options := by decide
    exact valued_setting hconfig rfl _ _
  | bundle r =>
    have hshared : overrideOptions ⊆ Command.bundle.options := by decide
    have hown : [Opt.output, .format, .shim, .dependencyFile] ⊆ Command.bundle.options := by
      decide
    simp only [Valued, settingsOf, List.forall_mem_append]
    refine ⟨⟨⟨⟨valued_overrides hshared _, ?_⟩, ?_⟩, ?_⟩, ?_⟩
    all_goals exact valued_setting (hown (by decide)) rfl _ _

/-- The arguments that put a request down make that request. -/
theorem parse_written (r : Request) (h : ∀ p ∈ pathsOf r, p.isEmpty = false) :
    parse (written r) = .ok { request := r } := by
  obtain ⟨s, hmakes, hoperand, hcolor, hrequest⟩ := exists_settings r h
  have hpath : (operandOf r).isEmpty = false := h _ (by cases r <;> exact List.mem_cons_self)
  have hlast : s.accept (.operand (operandOf r).bytes) =
      .ok { s with operand := some (operandOf r) } := by
    simp only [Settings.accept, hoperand, path?_bytes hpath]
  have hread : (readAll (commandOf r).options ((settingsOf r).map (fun x => attach x.1 x.2) ++
      [endOfOptions, (operandOf r).bytes])).foldlM Settings.accept {} =
        .ok { s with operand := some (operandOf r) } := by
    rw [readAll_attach (valued_settings r), readAll_operand, List.foldlM_append, List.foldlM_map]
    refine (congrArg (· >>= _) hmakes).trans ?_
    have hone : [Item.operand (operandOf r).bytes].foldlM Settings.accept s =
        s.accept (.operand (operandOf r).bytes) := by rw [List.foldlM_cons]; exact bind_pure _
    exact hone.trans hlast
  rw [parse, written, readProgram, readArgument_name]
  simp only [ofName?_name, readCommand, hread]
  change Except.ok (Invocation.mk ((commandOf r).request (operandOf r) _) (s.color.or none)) = _
  rw [hrequest, hcolor]
  rfl

/-- The paths in settings. -/
def settingsPaths (s : Settings) : List Path :=
  s.operand.toList ++ (overridingPaths s.overrides ++ s.output.toList ++ s.shim.toList ++
    s.dependencyFile.toList)

/-- No path in the settings is empty. -/
def Spelled (s : Settings) : Prop := ∀ p ∈ settingsPaths s, p.isEmpty = false

lemma nonempty_of_path? {value : Bytes} {p : Path} (h : path? value = some p) :
    p.isEmpty = false := by
  unfold path? at h
  split at h
  · cases h
  · rename_i hvalue
    cases h
    simpa [Path.isEmpty] using hvalue

/-- What is set is what the value is read as. -/
lemma exists_of_once {α : Type} {o : Opt} {read : Bytes → Option α} {value : Bytes} {old : Option α}
    {f : Option α → Settings} {t : Settings}
    (h : (do return f (← once o read value old)) = .ok t) :
    ∃ a, read value = some a ∧ f (some a) = t := by
  unfold once at h
  split at h
  · cases h
  · cases h
  · rename_i hread
    cases h
    exact ⟨_, hread, rfl⟩

lemma spelled_set {s t : Settings} {o : Opt} {value : Bytes} (hs : Spelled s)
    (h : s.set o value = .ok t) : Spelled t := by
  have hpath : ∀ {p : Path}, path? value = some p → ∀ q ∈ (some p).toList, q.isEmpty = false :=
    fun hp => List.forall_mem_singleton.2 (nonempty_of_path? hp)
  simp only [Spelled, settingsPaths, overridingPaths, List.forall_mem_append] at hs ⊢
  obtain ⟨hoperand, ⟨⟨⟨⟨hconfig, hhome⟩, hdirs⟩, houtput⟩, hshim⟩, hfile⟩ := hs
  cases o with
  | output =>
    obtain ⟨p, hp, rfl⟩ := exists_of_once h
    exact ⟨hoperand, ⟨⟨⟨⟨hconfig, hhome⟩, hdirs⟩, hpath hp⟩, hshim⟩, hfile⟩
  | shim =>
    obtain ⟨p, hp, rfl⟩ := exists_of_once h
    exact ⟨hoperand, ⟨⟨⟨⟨hconfig, hhome⟩, hdirs⟩, houtput⟩, hpath hp⟩, hfile⟩
  | dependencyFile =>
    obtain ⟨p, hp, rfl⟩ := exists_of_once h
    exact ⟨hoperand, ⟨⟨⟨⟨hconfig, hhome⟩, hdirs⟩, houtput⟩, hshim⟩, hpath hp⟩
  | config =>
    obtain ⟨p, hp, rfl⟩ := exists_of_once h
    exact ⟨hoperand, ⟨⟨⟨⟨hpath hp, hhome⟩, hdirs⟩, houtput⟩, hshim⟩, hfile⟩
  | grainHome =>
    obtain ⟨p, hp, rfl⟩ := exists_of_once h
    exact ⟨hoperand, ⟨⟨⟨⟨hconfig, hpath hp⟩, hdirs⟩, houtput⟩, hshim⟩, hfile⟩
  | includeDir =>
    cases hdir : path? value with
    | none => simp [Settings.set, hdir] at h
    | some p =>
      simp only [Settings.set, hdir, Except.ok.injEq] at h
      subst h
      exact ⟨hoperand, ⟨⟨⟨⟨hconfig, hhome⟩, List.forall_mem_append.2 ⟨hdirs, hpath hdir⟩⟩, houtput⟩,
        hshim⟩, hfile⟩
  | color | format | resolve =>
    obtain ⟨x, -, rfl⟩ := exists_of_once h
    exact ⟨hoperand, ⟨⟨⟨⟨hconfig, hhome⟩, hdirs⟩, houtput⟩, hshim⟩, hfile⟩
  | verbose | version | help => cases h

lemma spelled_accept {s t : Settings} {i : Item} (hs : Spelled s) (h : s.accept i = .ok t) :
    Spelled t := by
  cases i with
  | setting o value => exact spelled_set hs h
  | fault e => cases h
  | raised o =>
    have hsame : t = s := by cases o <;> cases h <;> rfl
    rwa [hsame]
  | operand value =>
    dsimp only [Settings.accept] at h
    split at h
    · cases h
    · cases h
    · rename_i p _ hvalue
      cases h
      simp only [Spelled, settingsPaths, List.forall_mem_append] at hs ⊢
      exact ⟨List.forall_mem_singleton.2 (nonempty_of_path? hvalue), hs.2⟩

lemma spelled_of_items {items : List Item} {s t : Settings} (hs : Spelled s)
    (h : items.foldlM Settings.accept s = .ok t) : Spelled t := by
  induction items generalizing s with
  | nil =>
    cases h
    exact hs
  | cons i items ih =>
    rw [List.foldlM_cons] at h
    cases hi : s.accept i with
    | error stop =>
      rw [hi] at h
      cases h
    | ok u =>
      rw [hi] at h
      exact ih (spelled_accept hs hi) h

lemma spelled_empty : Spelled {} := fun _ h => nomatch h

/-- The paths of a request are those of the settings it is made of. -/
lemma mem_paths_of_request {c : Command} {p q : Path} {s : Settings} (hp : s.operand = some p)
    (h : q ∈ pathsOf (c.request p s)) : q ∈ settingsPaths s := by
  have hall : settingsPaths s = p :: (overridingPaths s.overrides ++ s.output.toList ++
      s.shim.toList ++ s.dependencyFile.toList) := by
    rw [settingsPaths, hp]
    rfl
  rw [hall]
  cases c with
  | bundle => exact h
  | inspect => exact List.mem_cons.2 (.inl (List.mem_singleton.1 h))
  | imports =>
    refine List.mem_cons.2 ((List.mem_cons.1 h).imp_right fun hconfig => ?_)
    simp [overridingPaths, Option.mem_toList.1 hconfig]
  | resolve =>
    refine List.mem_cons.2 ((List.mem_cons.1 h).imp_right fun ho => ?_)
    simp only [List.mem_append]
    exact .inl (.inl (.inl ho))

lemma paths_of_readCommand {c : Command} {before : Settings} {arguments : List Bytes}
    {i : Invocation} (h : readCommand c before arguments = .ok i) :
    ∀ p ∈ pathsOf i.request, p.isEmpty = false := by
  unfold readCommand at h
  cases hitems : (readAll c.options arguments).foldlM Settings.accept {} with
  | error stop =>
    rw [hitems] at h
    cases h
  | ok s =>
    rw [hitems] at h
    have hs := spelled_of_items spelled_empty hitems
    cases hoperand : s.operand with
    | none => simp [hoperand, bind, Except.bind] at h
    | some p =>
      simp only [bind, Except.bind, hoperand, Except.ok.injEq] at h
      subst h
      exact fun q hq => hs q (mem_paths_of_request hoperand hq)

lemma paths_of_readProgram {s : Settings} {arguments : List Bytes} {i : Invocation}
    (h : readProgram s arguments = .ok i) : ∀ p ∈ pathsOf i.request, p.isEmpty = false := by
  fun_induction readProgram s arguments with
  | case1 => cases h
  | case2 => exact paths_of_readCommand h
  | case3 => cases h
  | case4 => cases h
  | case5 => cases h
  | case6 _ _ _ _ _ _ _ ih => exact ih h

/-- The requests that can be made by arguments are those in which no path is empty. -/
theorem requestable_iff (r : Request) :
    (∃ arguments colors, parse arguments = .ok ⟨r, colors⟩) ↔
      ∀ p ∈ pathsOf r, p.isEmpty = false := by
  constructor
  · rintro ⟨arguments, colors, h⟩
    exact paths_of_readProgram h
  · intro h
    exact ⟨written r, none, parse_written r h⟩

end WasmBundle.Proofs
