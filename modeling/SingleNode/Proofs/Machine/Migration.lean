/-
# Copying a volume

Copying a volume is three things done to the outside, with the making of a
directory between the second and the third: the engine is reached for, the
volume is looked up, and a container is run.  `Copying` lists the four ways that
this can go.

Each of the three turns the errors of the engine into faults of installation
(`IsInstallFault`), but two failures come to pass outside of that.  An engine
that refuses the connection is a fault of another stage before the look-up can
speak of it, and a directory that cannot be made is no fault at all.
`Copying.endsWell_iff` says that there are no others.
-/
import SingleNode.Proofs.Act.Only
import SingleNode.Proofs.Machine.FileTree
import SingleNode.Proofs.Machine.Requests

namespace SingleNode

def Event.isRunContainer : Event → Bool
  | .runContainer .. => true
  | _ => false

/-- The connection ran out of time.  None of the answers of the engine itself is
such an error. -/
def EngineError.IsLate (error : EngineError) : Prop :=
  error = .connectTimeout ∨ error = .readTimeout ∨ error = .timeout

theorem EngineError.isTimeout_eq_true_iff {error : EngineError} :
    error.isTimeout = true ↔ error.IsLate := by
  cases error <;> simp [isTimeout, IsLate]

theorem EngineError.isTimeout_eq_false_of_isNotFound {error : EngineError}
    (h : error.isNotFound = true) : error.isTimeout = false := by
  cases error with
  | notFound | imageNotFound => rfl
  | _ => exact nomatch h

/-- A fault of installation.  It is a cancellation if the connection ran out of
time, and only then. -/
def Failure.IsInstallFault (e : Failure) : Prop :=
  ∃ f, e = .fault f ∧ f.stage = "install" ∧
    (f.kind = .install ∨ f.kind = .cancelled) ∧
    (f.kind = .cancelled ↔
      ∃ error, f.cause = some (.engine error) ∧ error.IsLate ∧
        error.isEngine = false)

namespace Machine

/-! ## Faults of installation -/

theorem isInstallFault_late (detail : String) {error : EngineError}
    (ht : error.isTimeout = true) :
    (late FaultClass.install.stage detail error).IsInstallFault := by
  have hlate := EngineError.isTimeout_eq_true_iff.mp ht
  refine ⟨_, rfl, rfl, .inr rfl, iff_of_true rfl ⟨error, rfl, hlate, ?_⟩⟩
  exact EngineError.isEngine_eq_false_of_isTimeout ht

theorem isInstallFault_because (detail : String) {error : EngineError}
    (h : ¬(error.isTimeout = true ∧ error.isEngine = false)) :
    (Failure.because .install detail (.engine error)).IsInstallFault := by
  refine ⟨_, rfl, rfl, .inl rfl, iff_of_false nofun ?_⟩
  rintro ⟨error', hc, hlate, he⟩
  obtain rfl := Cause.engine.inj (Option.some.inj hc)
  exact h ⟨EngineError.isTimeout_eq_true_iff.mpr hlate, he⟩

theorem isInstallFault_installFailure (text lateText : String) {e : Failure}
    (h : e.IsOfEngine) :
    (installFailure text lateText e).IsInstallFault := by
  obtain ⟨error, message, rfl⟩ := h
  rw [installFailure]
  by_cases ht : (!error.isEngine && error.isTimeout) = true
  · rw [if_pos ht]
    exact isInstallFault_late _ (Bool.and_eq_true_iff.mp ht).2
  · rw [if_neg ht]
    refine isInstallFault_because _ ?_
    rintro ⟨h1, h2⟩
    exact ht (by rw [h1, h2]; rfl)

theorem isInstallFault_volumeFailure (timeout : Int) (volume : String)
    {e : Failure} (h : e.IsOfEngine) :
    (volumeFailure timeout volume e).IsInstallFault := by
  obtain ⟨error, message, rfl⟩ := h
  rw [volumeFailure]
  by_cases hn : error.isNotFound = true
  · rw [if_pos hn]
    refine isInstallFault_because _ ?_
    rintro ⟨ht, -⟩
    exact Bool.false_ne_true
      ((EngineError.isTimeout_eq_false_of_isNotFound hn).symm.trans ht)
  · rw [if_neg hn]
    exact isInstallFault_installFailure _ _ ⟨error, message, rfl⟩

/-! ## The ways that copying can go -/

def copyRun (volume : String) (dest : HostPath) : Event :=
  .runContainer "busybox:latest" ["sh", "-c", "cp -a /src/. /dest/"]
    (copyBinds volume dest)

def copyNote (volume : String) (dest : HostPath) : Event :=
  .log .info ("copying volume " ++ volume ++ " to " ++ dest.toString)

def copyFailure (timeout : Int) (volume : String) : Failure → Failure :=
  installFailure ("unable to migrate docker volume " ++ volume ++ ": ")
    ("docker volume " ++ volume ++ " copy did not finish within " ++
      toString timeout ++ "s")

def runOf (engine : Engine) : Except Failure Unit :=
  match engine.runFailure with
  | some e => .error e
  | none => .ok ()

/-- The engine can be asked, and there is the volume. -/
def Found (m : Machine) (volume : String) : Prop :=
  m.Reachable ∧ volumeOf m.engine volume = .ok ()

/-- What can happen when a volume is copied on the machine `m`. -/
inductive Copying (volume : String) (dest : HostPath) (m : Machine) :
    Report Machine Unit → Prop
  | unreached {e : Failure} :
      m.reach = .error e →
      Copying volume dest m
        ⟨m.connectDeeds, m.reached,
          .error (volumeFailure m.connection.timeout volume e)⟩
  | unfound {e : Failure} :
      m.Reachable → volumeOf m.engine volume = .error e →
      Copying volume dest m
        ⟨m.connectDeeds ++ [.inspectVolume volume], m.reached,
          .error (volumeFailure m.connection.timeout volume e)⟩
  | unmade {problem : FileProblem} {place : HostPath} :
      m.Found volume →
      (m.tree.ensureDirectories dest).2 = some (problem, place) →
      Copying volume dest m
        ⟨m.connectDeeds ++ [.inspectVolume volume],
          { m.reached with tree := (m.tree.ensureDirectories dest).1 },
          .error (.file problem place.toString)⟩
  | copied :
      m.Found volume → (m.tree.ensureDirectories dest).2 = none →
      Copying volume dest m
        ⟨m.connectDeeds ++ .inspectVolume volume ::
          [copyNote volume dest, copyRun volume dest],
          { m.reached with tree := (m.tree.ensureDirectories dest).1 },
          (runOf m.engine).mapError (copyFailure m.connection.timeout volume)⟩

/-- What is done once a volume was found. -/
def copyInto (volume : String) (dest : HostPath) : Act Machine Unit := do
  ensureDirectories dest
  Act.emit (copyNote volume dest)
  let m ← Act.get
  Act.handle
    (do connect; Act.emit (copyRun volume dest); failIf m.engine.runFailure)
    fun e =>
    Act.fail (copyFailure m.connection.timeout volume e)

theorem extractVolume_eq (volume : String) (dest : HostPath) :
    extractVolume volume dest = findVolume volume >>= fun _ =>
      copyInto volume dest := rfl

theorem run_copy (volume : String) (dest : HostPath) {m : Machine}
    (h : m.connection.connected = true) :
    (Act.handle
      (do connect; Act.emit (copyRun volume dest); failIf m.engine.runFailure)
      fun e =>
        Act.fail (copyFailure m.connection.timeout volume e)).run m =
      ⟨[copyRun volume dest], m,
        (runOf m.engine).mapError
        (copyFailure m.connection.timeout volume)⟩ := by
  have hf : failIf m.engine.runFailure = Act.ofExcept (runOf m.engine) := by
    rw [runOf]
    cases m.engine.runFailure <;> rfl
  rw [Act.run_handle_fail _ (copyFailure m.connection.timeout volume) m fun _ =>
    rfl, hf, Act.run_bind_ok (run_connect_of_connected h)]
  rfl

section CopyInto

variable {dest : HostPath} (hd : IsNamable dest) (volume : String) {m : Machine}
include hd

theorem run_copyInto_of_problem {problem : FileProblem} {place : HostPath}
    (ht : (m.tree.ensureDirectories dest).2 = some (problem, place)) :
    (copyInto volume dest).run m =
      ⟨[], { m with tree := (m.tree.ensureDirectories dest).1 },
        .error (.file problem place.toString)⟩ := by
  have hmade := run_ensureDirectories hd m
  rw [ht] at hmade
  exact Act.run_bind_error hmade

theorem run_copyInto (h : m.connection.connected = true)
    (ht : (m.tree.ensureDirectories dest).2 = none) :
    (copyInto volume dest).run m =
      ⟨[copyNote volume dest, copyRun volume dest],
        { m with tree := (m.tree.ensureDirectories dest).1 },
        (runOf m.engine).mapError
          (copyFailure m.connection.timeout volume)⟩ := by
  have hmade := run_ensureDirectories hd m
  rw [ht] at hmade
  rw [copyInto, Act.run_bind_ok hmade, Act.run_bind_ok (Act.run_emit _ _),
    Act.run_bind_ok (Act.run_get _)]
  have hcopy :=
    run_copy volume dest
    (m := { m with tree := (m.tree.ensureDirectories dest).1 }) h
  simp only [hcopy, List.nil_append, List.singleton_append]

end CopyInto

/-- Every run takes one of the ways. -/
theorem run_extractVolume {dest : HostPath} (hd : IsNamable dest)
    (volume : String) (m : Machine) :
    Copying volume dest m ((extractVolume volume dest).run m) := by
  rw [extractVolume_eq]
  cases hr : m.reach with
  | error e =>
    have hfind : (findVolume volume).run m =
        ⟨m.connectDeeds, m.reached,
          .error (volumeFailure m.connection.timeout volume e)⟩ := by
      rw [run_findVolume, requestDeeds, hr, List.append_nil]
      rfl
    rw [Act.run_bind_error hfind]
    exact .unreached hr
  | ok u =>
    have hm : m.Reachable := reach_eq_ok_iff.mp hr
    have hfind : (findVolume volume).run m =
        ⟨m.connectDeeds ++ [.inspectVolume volume], m.reached,
          (volumeOf m.engine volume).mapError
            (volumeFailure m.connection.timeout volume)⟩ := by
      rw [run_findVolume, requestDeeds_of_reachable hm, hr]
      rfl
    cases hv : volumeOf m.engine volume with
    | error e =>
      rw [hv] at hfind
      rw [Act.run_bind_error hfind]
      exact .unfound hm hv
    | ok u =>
      rw [hv] at hfind
      rw [Act.run_bind_ok hfind]
      cases ht : (m.tree.ensureDirectories dest).2 with
      | some e =>
        obtain ⟨problem, place⟩ := e
        rw [run_copyInto_of_problem hd volume (m := m.reached) ht,
          List.append_nil]
        exact .unmade ⟨hm, hv⟩ ht
      | none =>
        rw [run_copyInto hd volume (reached_of_reachable hm) ht,
          List.append_assoc]
        exact .copied ⟨hm, hv⟩ ht

/-! ## What copying leaves behind -/

theorem findVolume_cases (volume : String) (m : Machine) :
    (m.Found volume ∧ (findVolume volume).run m =
        ⟨m.connectDeeds ++ [.inspectVolume volume], m.reached, .ok ()⟩) ∨
      ∃ e,
        (findVolume volume).run m =
          ⟨m.requestDeeds (.inspectVolume volume), m.reached, .error e⟩ := by
  have hfind := run_findVolume volume m
  cases hr : m.reach with
  | error e => exact .inr ⟨_, by rw [hfind, hr]; rfl⟩
  | ok u =>
    cases hv : volumeOf m.engine volume with
    | error e => exact .inr ⟨_, by rw [hfind, hr, hv]; rfl⟩
    | ok u =>
      have hm : m.Reachable := reach_eq_ok_iff.mp hr
      exact .inl
        ⟨⟨hm, hv⟩, by rw [hfind, hr, hv, requestDeeds_of_reachable hm]; rfl⟩

theorem traces_copyInto {P : Machine → List Event → Machine → Prop}
    (hP : Act.Tracing P) {volume : String} {dest : HostPath}
    (hd : (ensureDirectories dest).Traces P) (hc : connect.Traces P)
    (hn : ∀ m, P m [copyNote volume dest] m)
    (hr : ∀ m, P m [copyRun volume dest] m) :
    (copyInto volume dest).Traces P := by
  refine hP.bind hd fun _ => hP.bind (Act.traces_emit hn) fun _ =>
    hP.bind hP.get fun m => ?_
  refine hP.handle (hP.bind hc fun _ => hP.bind (Act.traces_emit hr) fun _ =>
    ?_) fun _ => hP.fail _
  cases m.engine.runFailure with
  | none => exact hP.pure ()
  | some e => exact hP.fail e

/-- Relating the file trees before and after goes well with putting actions
together. -/
theorem tracing_laid (p : HostPath) :
    Act.Tracing fun (m : Machine) _ (m' : Machine) =>
      m.tree.Laid p m'.tree where
  nil m := .refl p m.tree
  append h h' := h.trans h'

theorem traces_laid_connect (p : HostPath) :
    connect.Traces fun m _ m' => m.tree.Laid p m'.tree := by
  intro m
  rw [run_connect_eq]
  exact .refl p m.tree

/-- Copying lays directories if the volume was found, and else leaves the file
tree as it is. -/
theorem tree_extractVolume (volume : String) (dest : HostPath) (m : Machine) :
    let m' := ((extractVolume volume dest).run m).state
    m'.tree = m.tree ∨ m.Found volume ∧ m.tree.Laid dest m'.tree := by
  have hmake : (ensureDirectories dest).Traces fun m _ m' =>
      m.tree.Laid dest m'.tree := by
    intro m
    obtain ⟨-, tree, hlaid, hstate⟩ := laid_run_ensureDirectories dest m
    rw [hstate]
    exact hlaid
  have hcopy : (copyInto volume dest).Traces fun m _ m' =>
      m.tree.Laid dest m'.tree :=
    traces_copyInto (tracing_laid dest) hmake (traces_laid_connect dest)
      (tracing_laid dest).nil
      (tracing_laid dest).nil
  rw [extractVolume_eq]
  rcases findVolume_cases volume m with ⟨hfound, hfind⟩ | ⟨e, hfind⟩
  · rw [Act.run_bind_ok hfind]
    exact .inr ⟨hfound, hcopy m.reached⟩
  · rw [Act.run_bind_error hfind]
    exact .inl rfl

theorem only_extractVolume {p : Event → Prop} {volume : String}
    {dest : HostPath} (hc : ∀ timeout, p (.connect timeout))
    (hv : p (.inspectVolume volume)) (hn : p (copyNote volume dest))
    (hr : p (copyRun volume dest)) :
    (extractVolume volume dest).Only p := by
  have hP : Act.Tracing fun (_ : Machine) es (_ : Machine) => ∀ e ∈ es, p e :=
    Act.tracing_only p
  have hconnect : connect.Only p := by
    intro m e he
    rw [run_connect_eq] at he
    rw [mem_connectDeeds he]
    exact hc _
  have hmake : (ensureDirectories dest).Only p := by
    intro m e he
    rw [(laid_run_ensureDirectories dest m).1] at he
    exact absurd he List.not_mem_nil
  have hfind : (findVolume volume).Only p := by
    intro m e he
    rw [run_findVolume] at he
    rcases mem_requestDeeds he with rfl | ⟨rfl, -⟩
    · exact hc _
    · exact hv
  have hcopy : (copyInto volume dest).Only p :=
    traces_copyInto hP hmake hconnect
      (fun _ => List.forall_mem_singleton.mpr hn)
      fun _ => List.forall_mem_singleton.mpr hr
  exact hP.bind hfind fun _ => hcopy

/-! ## How copying ends -/

/-- Whatever fails in the engine fails with an answer of its own or with trouble
of the connection. -/
structure FailsAsEngine (engine : Engine) : Prop where
  connect : ∀ e, engine.connectFailure = some e → e.IsOfEngine
  volume : ∀ e, engine.volumeFailure = some e → e.IsOfEngine
  run : ∀ e, engine.runFailure = some e → e.IsOfEngine

/-- A container is run once, after the volume was looked up. -/
def RunsOnce (volume : String) (events : List Event) : Prop :=
  ∃ before between run, events = before ++ .inspectVolume volume ::
    (between ++ [run]) ∧
    run.isRunContainer = true ∧
    ∀ x ∈ before ++ between, x.isRunContainer = false

/-- What copying a volume should end with: the volume was found and copied by
one container run into a directory that is there, or the failure is a fault of
installation. -/
def EndsWell (volume : String) (dest : HostPath) (m : Machine)
    (r : Report Machine Unit) : Prop :=
  (r.outcome = .ok () ∧ m.Found volume ∧ RunsOnce volume r.events ∧
      r.state.tree.isDirectory dest = true) ∨
    ∃ e, r.outcome = .error e ∧ e.IsInstallFault

/-- There is no connection, and the engine itself refuses to let one be made. -/
def Refused (m : Machine) : Prop :=
  m.connection.connected = false ∧
    ∃ error message, m.engine.connectFailure = some (.engine error message) ∧
      error.isEngine = true

/-- There is the volume, but the directory cannot be made. -/
def Blocked (m : Machine) (volume : String) (dest : HostPath) : Prop :=
  m.Found volume ∧ (m.tree.ensureDirectories dest).2 ≠ none

theorem Refused.not_reachable {m : Machine} (h : m.Refused) : ¬m.Reachable := by
  obtain ⟨hc, error, message, hf, -⟩ := h
  rintro (hr | hr)
  · exact Bool.false_ne_true (hc.symm.trans hr)
  · exact nomatch hf.symm.trans hr

theorem isRunContainer_connectDeeds {m : Machine} {x : Event}
    (h : x ∈ m.connectDeeds) :
    x.isRunContainer = false := by
  rw [mem_connectDeeds h]
  rfl

theorem runsOnce_copied (volume : String) (dest : HostPath) (m : Machine) :
    RunsOnce volume
      (m.connectDeeds ++ .inspectVolume volume ::
        [copyNote volume dest, copyRun volume dest]) := by
  refine ⟨m.connectDeeds, [copyNote volume dest], copyRun volume dest,
    rfl, rfl, ?_⟩
  intro x hx
  rcases List.mem_append.mp hx with hx | hx
  · exact isRunContainer_connectDeeds hx
  · rw [List.mem_singleton.mp hx]
    rfl

theorem isRunContainer_lookedUp {volume : String} {m : Machine} {x : Event}
    (h : x ∈ m.connectDeeds ++ [.inspectVolume volume]) :
    x.isRunContainer = false := by
  rcases List.mem_append.mp h with h | h
  · exact isRunContainer_connectDeeds h
  · rw [List.mem_singleton.mp h]
    rfl

theorem isOfEngine_of_volumeOf {engine : Engine} (h : FailsAsEngine engine)
    {volume : String} {e : Failure} (he : volumeOf engine volume = .error e) :
    e.IsOfEngine := by
  rw [volumeOf] at he
  cases hf : engine.volumeFailure with
  | some f =>
    rw [hf] at he
    exact Except.error.inj he ▸ h.volume f hf
  | none =>
    rw [hf] at he
    dsimp only at he
    split at he
    · cases he
    · exact ⟨_, _, (Except.error.inj he).symm⟩

theorem not_isInstallFault_refused {f : Fault}
    (h : f.kind = .runtimeUnavailable) :
    ¬(Failure.fault f).IsInstallFault := by
  rintro ⟨g, hg, -, hk | hk, -⟩
  · obtain rfl := Failure.fault.inj hg
    exact nomatch h.symm.trans hk
  · obtain rfl := Failure.fault.inj hg
    exact nomatch h.symm.trans hk

section Copying

variable {volume : String} {dest : HostPath} {m : Machine}
  {r : Report Machine Unit}

/-- An engine that cannot be reached refuses, or what it ends with is a fault of
installation. -/
theorem refused_or_isInstallFault {e : Failure} (he : FailsAsEngine m.engine)
    (hr : m.reach = .error e) :
    (m.Refused ∧ ∃ f, volumeFailure m.connection.timeout volume e = .fault f ∧
        f.kind = .runtimeUnavailable ∧ f.stage = "pre-check") ∨
      ¬m.Refused ∧
      (volumeFailure m.connection.timeout volume e).IsInstallFault := by
  obtain ⟨-, hc, f, hf, rfl⟩ := of_reach_error hr
  obtain ⟨error, message, rfl⟩ := he.connect f hf
  rw [refusal]
  cases hk : error.isEngine with
  | true => exact .inl ⟨⟨hc, error, message, hf, hk⟩, _, rfl, rfl, rfl⟩
  | false =>
    refine .inr ⟨?_, isInstallFault_volumeFailure _ _ ⟨error, message, rfl⟩⟩
    rintro ⟨-, error', message', hf', hk'⟩
    obtain ⟨rfl, -⟩ := Failure.engine.inj (Option.some.inj (hf.symm.trans hf'))
    exact Bool.false_ne_true (hk.symm.trans hk')

theorem Copying.endsWell_iff (h : Copying volume dest m r)
    (he : FailsAsEngine m.engine) :
    EndsWell volume dest m r ↔ ¬m.Refused ∧ ¬m.Blocked volume dest := by
  cases h with
  | @unreached e hr =>
    have hblocked : ¬m.Blocked volume dest :=
      fun h => (of_reach_error hr).1 h.1.1
    rcases refused_or_isInstallFault he hr
      with ⟨hrefused, f, hf, hk, -⟩ | ⟨hrefused, hf⟩
    · refine iff_of_false ?_ fun h => h.1 hrefused
      rintro (⟨ho, -⟩ | ⟨e', ho, hi⟩)
      · exact nomatch ho
      · obtain rfl := Except.error.inj ho
        exact not_isInstallFault_refused hk (hf ▸ hi)
    · exact iff_of_true (.inr ⟨_, rfl, hf⟩) ⟨hrefused, hblocked⟩
  | @unfound e hm hv =>
    refine iff_of_true (.inr ⟨_, rfl, ?_⟩) ⟨fun h => h.not_reachable hm, ?_⟩
    · exact isInstallFault_volumeFailure _ _ (isOfEngine_of_volumeOf he hv)
    · rintro ⟨⟨-, hv'⟩, -⟩
      exact nomatch hv.symm.trans hv'
  | unmade hfound ht =>
    refine iff_of_false ?_ fun h => h.2 ⟨hfound, ?_⟩
    · rintro (⟨ho, -⟩ | ⟨e, ho, f, rfl, -⟩)
      · exact nomatch ho
      · exact nomatch ho
    · rw [ht]
      exact Option.some_ne_none _
  | copied hfound ht =>
    refine iff_of_true ?_ ⟨fun h => h.not_reachable hfound.1, fun h => h.2 ht⟩
    rw [EndsWell, runOf]
    cases hf : m.engine.runFailure with
    | none =>
      exact .inl ⟨rfl, hfound, runsOnce_copied volume dest m,
        FileTree.isDirectory_ensureDirectories ht⟩
    | some e =>
      exact .inr ⟨_, rfl, isInstallFault_installFailure _ _ (he.run e hf)⟩

theorem Copying.runs (h : Copying volume dest m r)
    (hx : ∃ x ∈ r.events, x.isRunContainer = true) :
    m.Found volume ∧ (m.tree.ensureDirectories dest).2 = none ∧
    RunsOnce volume r.events ∧
      r.state.tree.isDirectory dest = true := by
  obtain ⟨x, hx, hrun⟩ := hx
  cases h with
  | unreached =>
    exact absurd hrun (by rw [isRunContainer_connectDeeds hx]; nofun)
  | unfound => exact absurd hrun (by rw [isRunContainer_lookedUp hx]; nofun)
  | unmade => exact absurd hrun (by rw [isRunContainer_lookedUp hx]; nofun)
  | copied hfound ht =>
    exact ⟨hfound, ht, runsOnce_copied volume dest m,
      FileTree.isDirectory_ensureDirectories ht⟩

theorem Copying.of_refused (h : Copying volume dest m r)
    (he : FailsAsEngine m.engine) (hrefused : m.Refused) :
    ∃ f, r.outcome = .error (.fault f) ∧ f.kind = .runtimeUnavailable ∧
      f.stage = "pre-check" := by
  cases h with
  | unreached hr =>
    rcases refused_or_isInstallFault he hr with ⟨-, f, hf, hk⟩ | ⟨hn, -⟩
    · exact ⟨f, congrArg Except.error hf, hk⟩
    · exact absurd hrefused hn
  | unfound hm => exact absurd hm hrefused.not_reachable
  | unmade hfound => exact absurd hfound.1 hrefused.not_reachable
  | copied hfound => exact absurd hfound.1 hrefused.not_reachable

theorem Copying.of_blocked (h : Copying volume dest m r)
    (hblocked : m.Blocked volume dest) :
    ∃ problem place, r.outcome = .error (.file problem place) := by
  obtain ⟨⟨hm, hv⟩, ht⟩ := hblocked
  cases h with
  | unreached hr => exact absurd hm (of_reach_error hr).1
  | unfound _ hv' => exact nomatch hv'.symm.trans hv
  | unmade => exact ⟨_, _, rfl⟩
  | copied _ ht' => exact absurd ht' ht

end Copying

/-- Copying a volume ends as it should, unless the engine refuses the connection
or the directory cannot be made.  The first ends with a fault of the check
before installation, the second with the bare problem of the path.  However it
ends, a container is run at most once, after the volume was found and into a
directory that is there. -/
theorem extractVolume_endsWell_iff {m : Machine} {dest : HostPath}
    (volume : String) (hd : IsNamable dest) (he : FailsAsEngine m.engine) :
    let r := (extractVolume volume dest).run m
    (EndsWell volume dest m r ↔ ¬m.Refused ∧ ¬m.Blocked volume dest) ∧
      ((∃ x ∈ r.events, x.isRunContainer = true) →
        m.Found volume ∧ (m.tree.ensureDirectories dest).2 = none ∧
        RunsOnce volume r.events ∧ r.state.tree.isDirectory dest = true) ∧
      (m.Refused → ∃ f, r.outcome = .error (.fault f) ∧
        f.kind = .runtimeUnavailable ∧ f.stage = "pre-check") ∧
      (m.Blocked volume dest →
        ∃ problem place, r.outcome = .error (.file problem place)) := by
  intro r
  have h : Copying volume dest m r := run_extractVolume hd volume m
  exact ⟨h.endsWell_iff he, h.runs, h.of_refused he, h.of_blocked⟩

/-- A machine with a volume, on which a file stands where a directory is
wanted. -/
def obstructed : Machine where
  tree := ⟨["work"], [(["work"], .directory), (["work", "data"], .file)]⟩
  engine := { volumes := ["database"] }

/-- On this machine the directory `data/pg` cannot be made, so copying does not
end as it should. -/
theorem extractVolume_endsWell_iff_obstructed :
    IsNamable ⟨"", ["data", "pg"]⟩ ∧ FailsAsEngine obstructed.engine ∧
      obstructed.Blocked "database" ⟨"", ["data", "pg"]⟩ ∧
      ¬EndsWell "database" ⟨"", ["data", "pg"]⟩ obstructed
        ((extractVolume "database" ⟨"", ["data", "pg"]⟩).run obstructed) := by
  have hd : IsNamable ⟨"", ["data", "pg"]⟩ := by
    rw [IsNamable]
    decide +kernel
  have he : FailsAsEngine obstructed.engine := ⟨nofun, nofun, nofun⟩
  have hmake :
      obstructed.tree.makeDirectory ⟨"", ["data", "pg"]⟩ =
        .error .notDirectory := rfl
  have hb : obstructed.Blocked "database" ⟨"", ["data", "pg"]⟩ := by
    refine ⟨⟨.inr rfl, rfl⟩, ?_⟩
    rw [FileTree.ensureDirectories, hmake, FileTree.ensureDirectory, hmake]
    exact Option.some_ne_none _
  refine ⟨hd, he, hb, ?_⟩
  intro h
  exact ((extractVolume_endsWell_iff "database" hd he).1.mp h).2 hb

/-- A machine of which the engine refuses connections. -/
def refusing : Machine where
  tree := .empty ["work"]
  engine := { connectFailure := some (.engine .engine "boom") }

/-- On this machine copying ends with a fault of another stage. -/
theorem refused_of_refusing :
    ((extractVolume "database" ⟨"", ["data"]⟩).run refusing).outcome =
        .error (.because .runtimeUnavailable "unable to connect to docker: boom"
          (.engine .engine)) ∧
      ¬EndsWell "database" ⟨"", ["data"]⟩ refusing
        ((extractVolume "database" ⟨"", ["data"]⟩).run refusing) := by
  have ho : ((extractVolume "database" ⟨"", ["data"]⟩).run refusing).outcome =
      .error (.because .runtimeUnavailable "unable to connect to docker: boom"
        (.engine .engine)) := by
    rfl
  refine ⟨ho, ?_⟩
  rintro (⟨h, -⟩ | ⟨e, h, hi⟩)
  · exact nomatch ho.symm.trans h
  · obtain rfl := Except.error.inj (ho.symm.trans h)
    exact not_isInstallFault_refused rfl hi

end Machine

end SingleNode
