import WasmBundle.Proofs.BundleOutput
import WasmBundle.Shell.Launch

/-!
# Programs that are not started

A launcher looks for the program, follows the interpreters that files name and only then starts a
tool. Everything before that looks at the disk and changes nothing, and a tool that was started
comes to a status. So where a launcher gives an error, nothing was started and the disk is as it
was.
-/

namespace WasmBundle.Proofs
open CommandLine Shell Shell.Running

variable {α β : Type}

/-- What work comes to in a process that begins with a session. -/
def ending (work : Running α) (p : Process) (s : Session) :
    (Except Interruption α × Process) × Session :=
  (work.run.run p).run s

/-- Work that always goes on and leaves the disk as it is. -/
def Still (work : Running α) : Prop :=
  ∀ p s, (∃ a, (ending work p s).1.1 = .ok a) ∧ (ending work p s).2.disk = s.disk

/-- Work that leaves the disk as it is if it gives an error. -/
def ErrorKeeps (work : Running (Except IoError α)) : Prop :=
  ∀ p s e, (ending work p s).1.1 = .ok (.error e) → (ending work p s).2.disk = s.disk

/-- Work that gives no error. -/
def NoError (work : Running (Except IoError α)) : Prop :=
  ∀ p s e, (ending work p s).1.1 ≠ .ok (.error e)

lemma ending_bind (x : Running α) (f : α → Running β) (p : Process) (s : Session) :
    ending (x >>= f) p s =
      match ending x p s with
      | ((.ok a, q), t) => ending (f a) q t
      | ((.error i, q), t) => ((.error i, q), t) := by
  simp only [ending, ExceptT.run_bind, StateT.run_bind]
  rcases (x.run.run p).run s with ⟨⟨a | a, q⟩, t⟩ <;> rfl

lemma still_pure (a : α) : Still (pure a) := fun _ _ => ⟨⟨a, rfl⟩, rfl⟩

lemma still_get : Still (get : Running Process) := fun p _ => ⟨⟨p, rfl⟩, rfl⟩

lemma still_ask (questions : List Consultation) (answer : Disk → α) :
    Still (onDisk (OnDisk.ask questions answer)) :=
  fun _ _ => ⟨⟨_, rfl⟩, rfl⟩

lemma Still.bind {x : Running α} {f : α → Running β} (hx : Still x) (hf : ∀ a, Still (f a)) :
    Still (x >>= f) := by
  intro p s
  obtain ⟨⟨a, ha⟩, hdisk⟩ := hx p s
  rw [ending_bind]
  rcases hend : ending x p s with ⟨⟨o, q⟩, t⟩
  rw [hend] at ha hdisk
  cases ha
  obtain ⟨hgives, hdisk'⟩ := hf a q t
  exact ⟨hgives, hdisk'.trans hdisk⟩

lemma Still.errorKeeps {work : Running (Except IoError α)} (h : Still work) : ErrorKeeps work :=
  fun p s _ _ => (h p s).2

lemma NoError.errorKeeps {work : Running (Except IoError α)} (h : NoError work) : ErrorKeeps work :=
  fun p s e he => absurd he (h p s e)

lemma ErrorKeeps.bind {x : Running α} {f : α → Running (Except IoError β)} (hx : Still x)
    (hf : ∀ a, ErrorKeeps (f a)) : ErrorKeeps (x >>= f) := by
  intro p s e he
  obtain ⟨⟨a, ha⟩, hdisk⟩ := hx p s
  rw [ending_bind] at he ⊢
  rcases hend : ending x p s with ⟨⟨o, q⟩, t⟩
  rw [hend] at ha hdisk he
  cases ha
  exact (hf a q t e he).trans hdisk

lemma noError_ok (a : α) : NoError (pure (.ok a)) := fun _ _ _ h => by cases h

lemma NoError.bind {x : Running α} {f : α → Running (Except IoError β)}
    (hf : ∀ a, NoError (f a)) : NoError (x >>= f) := by
  intro p s e he
  rw [ending_bind] at he
  rcases hend : ending x p s with ⟨⟨i | a, q⟩, t⟩
  · rw [hend] at he
    cases he
  · rw [hend] at he
    exact hf a q t e he

/-- What is done in the end changes what the work gives only by being interrupted. -/
lemma ending_finally (work : Running α) (last : Running Unit) (p : Process) (s : Session) :
    (ending (tryFinally work last) p s).1.1 =
      match ending work p s with
      | ((o, q), t) =>
        match (ending last q t).1.1 with
        | .ok () => o
        | .error i => .error i := by
  rcases hwork : ending work p s with ⟨⟨o, q⟩, t⟩
  rcases hlast : ending last q t with ⟨⟨o', q'⟩, t'⟩
  have hwork' : work p s = ((o, q), t) := hwork
  have hlast' : last q t = ((o', q'), t') := hlast
  unfold ending tryFinally
  simp only [ExceptT.run_map, StateT.run_map, tryFinally', ExceptT.run_mk, StateT.run_bind]
  dsimp only [StateT.run, StateT.bind, ExceptT.run, bind, pure, Functor.map]
  rw [hwork']
  cases o <;> simp only [hlast'] <;> cases o' <;> rfl

lemma noError_apart {work : Running (Except IoError α)} (h : NoError work) :
    NoError (Subshell.apart work) := by
  refine .bind fun before => .bind fun place => ?_
  intro p s e he
  rw [ending_finally] at he
  rcases hend : ending work p s with ⟨⟨o, q⟩, t⟩
  have hnone := h p s e
  rw [hend] at he hnone
  dsimp only at he
  split at he
  · exact hnone he
  · cases he

lemma still_executable (place : String) : Still (Program.executable place) := by
  refine (still_ask _ _).bind fun found => ?_
  cases found with
  | error e => exact still_pure _
  | ok node => cases node <;> exact still_pure _

lemma still_search (fault : IoError) (places : List String) :
    Still (Program.search fault places) := by
  induction places generalizing fault with
  | nil => exact still_pure _
  | cons place rest ih =>
    refine (still_executable place).bind fun found => ?_
    cases found with
    | ok f => exact still_pure _
    | error e => cases e <;> exact ih _

lemma still_findAlong (path name : String) : Still (Program.findAlong path name) := by
  unfold Program.findAlong
  split
  · refine (still_executable name).bind fun found => ?_
    cases found <;> exact still_pure _
  · exact still_search _ _

lemma still_find (name : String) : Still (Program.find name) :=
  still_get.bind fun _ => still_findAlong _ name

lemma still_resolve (depth : Nat) (place : String) (arguments : List String) :
    Still (Program.resolve depth place arguments) := by
  induction depth generalizing place arguments with
  | zero => exact still_pure _
  | succ depth ih =>
    refine (still_executable place).bind fun found => ?_
    cases found with
    | error e => exact still_pure _
    | ok f =>
      dsimp only
      split
      · exact still_pure _
      · split
        · exact still_pure _
        · exact ih _ _
      · exact still_pure _

lemma still_starting (place : String) (arguments : List String) :
    Still (Program.starting place arguments) := by
  unfold Program.starting
  split
  · exact still_pure _
  · exact still_resolve _ _ _

lemma errorKeeps_run (r : Runner) (s : Program.Start) : ErrorKeeps (Program.run r s) := by
  unfold Program.run
  split
  · exact (still_pure _).errorKeeps
  · refine (noError_apart ?_).errorKeeps
    refine .bind fun _ => .bind fun status => .bind fun p => ?_
    split
    · exact noError_ok _
    · exact .bind fun _ => noError_ok _

/-- A launcher collects what a process has printed, whatever it came to, and passes on an error. -/
lemma disk_of_collected {work : Running (Except IoError Nat)} (hwork : ErrorKeeps work)
    {p : Process} {s t : Session} {e : IoError}
    (h : (do
      match ← work.run.run p with
      | (.ok (.ok status), p) => return .ok (finished (.ok status) p)
      | (.ok (.error e), _) => return .error e
      | (.error e, p) => return .ok (finished (.error e) p) :
        OnDisk (Except IoError Finished)).run s = (.error e, t)) : t.disk = s.disk := by
  have hkeeps := hwork p s
  unfold ending at hkeeps
  rw [StateT.run_bind] at h
  rcases hend : (work.run.run p).run s with ⟨⟨i | e' | status, q⟩, u⟩
  · rw [hend] at h
    cases h
  · rw [hend] at h hkeeps
    cases h
    exact hkeeps e rfl
  · rw [hend] at h
    cases h

/-- Where the launcher gives an error, it has started nothing, and the disk is as it was. -/
theorem disk_of_launcher_error {environment : List (String × String)} {program : Path}
    {arguments : List Bytes} {s t : Session} {e : IoError}
    (h : (launcher environment program arguments).run s = (.error e, t)) : t.disk = s.disk := by
  unfold launcher at h
  dsimp only at h
  split at h
  · cases h
    rfl
  split at h
  · cases h
    rfl
  refine disk_of_collected ?_ h
  refine .bind (still_find _) fun found => ?_
  cases found with
  | error e => exact (still_pure _).errorKeeps
  | ok place =>
    refine .bind (still_starting _ _) fun started => ?_
    cases started with
    | error e => exact (still_pure _).errorKeeps
    | ok s => exact errorKeeps_run _ s

/-- Loading a program changes nothing on the disk unless it has started a compiler. -/
theorem started_of_leftBy {environment : List (String × String)} {source : Path} {d d' : Disk}
    (h : LeftBy (launcher environment) source d d') :
    d' = d ∨ isCompiled source = false ∧ ∃ compiler s finished t, s.disk = d ∧ t.disk = d' ∧
      (launcher environment compiler [Bytes.utf8 "compile", source.bytes]).run s =
        (.ok finished, t) := by
  cases h with
  | unused => exact .inl rfl
  | @used compiler s hsource hs =>
    rcases hrun : (launcher environment compiler [Bytes.utf8 "compile", source.bytes]).run s with
      ⟨e | finished, t⟩
    · exact .inl ((disk_of_launcher_error hrun).trans hs)
    · exact .inr ⟨hsource, compiler, s, finished, t, hs, rfl, hrun⟩

end WasmBundle.Proofs
