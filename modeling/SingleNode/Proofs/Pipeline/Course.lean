/-
# The courses of an installation

The stages of an installation, told as `Provisioning.Course` tells those of
provisioning: which collaborators were called from which state, what they
answered, and how the installation ended.  The relation is about the world only.
Attributes and records of telemetry have no part in it, and the clock decides
nothing but whether the duration can be told (`run_course`).
-/
import SingleNode.Pipeline
import SingleNode.Proofs.Provisioning.Course
import SingleNode.Proofs.Registry.Merged
import SingleNode.Proofs.Telemetry.Operation

namespace SingleNode.Pipeline

open Installation (Options Request)
open Provisioning (ready)

variable {σ : Type}

/-- The options for a request and a port: what the installer is given. -/
def optionsFor (env : Settings.Environment) (request : Request)
    (port : Int) : Options :=
  .ofRequest request port (Registry.merged env request)

/-- What can happen when the stages run in the world `w`. -/
inductive Course (c : Collaborators σ) (provider : Cluster.Provider)
    (env : Settings.Environment) (request : Request)
    (w : σ) : Report σ Options → Prop
  | engineFails {d : List Event} {t : σ} {e : Failure} :
      c.version.silent.run w = ⟨d, t, .error e⟩ →
      Course c provider env request w ⟨d, t, .error e⟩
  | provisioningFails {d d' : List Event} {t u : σ} {v : EngineVersion}
      {r : Except Failure Provisioning.Outcome} {e : Failure} :
      c.version.silent.run w = ⟨d, t, .ok v⟩ →
      Provisioning.Course c provider request.port request.volumes t ⟨d', u, r⟩ →
      ready r = .error e →
      Course c provider env request w ⟨d ++ d', u, .error e⟩
  | incomplete {d d' : List Event} {t u : σ} {v : EngineVersion}
      {r : Except Failure Provisioning.Outcome} {o : Provisioning.Outcome} :
      c.version.silent.run w = ⟨d, t, .ok v⟩ →
      Provisioning.Course c provider request.port request.volumes t ⟨d', u, r⟩ →
      ready r = .ok o → (Registry.merged env request).isComplete = false →
      Course c provider env request w
        ⟨d ++ d', u, .error (.fault (Options.incompleteFault env request))⟩
  | installFails {d d' d'' : List Event} {t u x : σ} {v : EngineVersion}
      {r : Except Failure Provisioning.Outcome} {o : Provisioning.Outcome}
      {e : Failure} :
      c.version.silent.run w = ⟨d, t, .ok v⟩ →
      Provisioning.Course c provider request.port request.volumes t ⟨d', u, r⟩ →
      ready r = .ok o → (Registry.merged env request).isComplete = true →
      (c.install (optionsFor env request o.port)).silent.run u =
        ⟨d'', x, .error e⟩ →
      Course c provider env request w ⟨d ++ (d' ++ d''), x, .error e⟩
  | installed {d d' d'' : List Event} {t u x : σ} {v : EngineVersion}
      {r : Except Failure Provisioning.Outcome} {o : Provisioning.Outcome} :
      c.version.silent.run w = ⟨d, t, .ok v⟩ →
      Provisioning.Course c provider request.port request.volumes t ⟨d', u, r⟩ →
      ready r = .ok o → (Registry.merged env request).isComplete = true →
      (c.install (optionsFor env request o.port)).silent.run u =
        ⟨d'', x, .ok ()⟩ →
      Course c provider env request w
        ⟨d ++ (d' ++ d''), x, .ok (optionsFor env request o.port)⟩

variable (c : Collaborators σ) (provider : Cluster.Provider)
  (env : Settings.Environment) (request : Request)

/-- The telemetry after the version of the engine has been noted. -/
def noted (v : EngineVersion) (t : Telemetry) : Telemetry :=
  let version := t.attributes.insert "docker_version" v.version
  let arch := version.insert "docker_arch" v.arch
  { t with attributes := arch.insert "docker_platform" v.platform }

theorem run_silent_findEngine (s : Observed σ) :
    (findEngine c).silent.run s =
      match c.version.silent.run s.world with
      | ⟨d, w, .ok v⟩ =>
        ⟨d, { s with telemetry := noted v s.telemetry, world := w }, .ok ()⟩
      | ⟨d, w, .error e⟩ => ⟨d, { s with world := w }, .error e⟩ := by
  simp only [findEngine, Act.silent_bind, Act.silent_print, pure_bind,
    Act.silent_onFault,
    Act.onFault_pure, Act.silent_within, Telemetry.silent_setAttribute,
      Act.run_bind,
    Act.run_within]
  rcases c.version.silent.run s.world with ⟨d, w, e | v⟩
  · rfl
  · simp only [Telemetry.setAttribute, Act.run_modify, Act.run_pure,
      List.append_nil, noted]

theorem run_silent_buildInstall (port : Int) (s : Observed σ) :
    ((Options.build env request port).silent >>= fun options =>
      (c.install options).silent.within >>= fun _ => pure options).run s =
    if (Registry.merged env request).isComplete then
      match (c.install (optionsFor env request port)).silent.run s.world with
      | ⟨d, w, .ok _⟩ =>
        ⟨d, { s with world := w }, .ok (optionsFor env request port)⟩
      | ⟨d, w, .error e⟩ => ⟨d, { s with world := w }, .error e⟩
    else ⟨[], s, .error (.fault (Options.incompleteFault env request))⟩ := by
  rw [Options.silent_build]
  cases (Registry.merged env request).isComplete with
  | false => rfl
  | true =>
    simp only [if_true, pure_bind, Act.run_bind, Act.run_within, optionsFor]
    rcases (c.install
      (.ofRequest request port (Registry.merged env request))).silent.run
      s.world
      with ⟨d, w, e | _⟩
    · rfl
    · simp only [Act.run_pure, List.append_nil]

theorem silent_stages :
    (stages c provider env request).silent =
      (findEngine c).silent >>= fun _ =>
        (Act.attempt
          (Provisioning.run c provider request.port
          request.volumes).silent).within >>=
          fun r =>
            match ready r with
            | .ok o =>
              (Options.build env request o.port).silent >>= fun options =>
                (c.install options).silent.within >>= fun _ => pure options
            | .error e => Act.fail e := by
  have split (x : Act (Observed σ) Provisioning.Outcome)
      (f : Provisioning.Outcome → Act (Observed σ) Options) :
      x >>= f = Act.attempt x >>= fun r => Act.ofExcept r >>= f := by
    funext s
    change (x >>= f).run s =
      (Act.attempt x >>= fun r => Act.ofExcept r >>= f).run s
    simp only [Act.run_bind, Act.run_attempt, Act.run_ofExcept]
    cases (x.run s).outcome <;> simp
  simp only [stages, Act.silent_bind, Act.silent_print,
    Act.silent_stage, pure_bind,
    Act.silent_onFault, Act.onFault_pure, Act.silent_within, Act.silent_pure,
      Act.silent_ofExcept]
  rw [split]
  simp only [Provisioning.ofExcept_bind_toExcept]
  rfl

theorem stages_course (s : Observed σ) :
    let r := (stages c provider env request).silent.run s
    Course c provider env request s.world ⟨r.events, r.state.world, r.outcome⟩ ∧
      r.state.clock = s.clock := by
  simp only [silent_stages, Act.run_bind, run_silent_findEngine]
  rcases hv : c.version.silent.run s.world with ⟨d, t, e | v⟩
  · exact ⟨.engineFails hv, rfl⟩
  · have hc := Provisioning.run_course c provider request.port request.volumes t
    simp only [Act.run_within, Act.run_attempt]
    rcases hp : (Provisioning.run c provider request.port
      request.volumes).silent.run t
      with ⟨d', u, r⟩
    rw [hp] at hc
    cases hr : ready r with
    | error e => exact ⟨by simpa [hr] using .provisioningFails hv hc hr, rfl⟩
    | ok o =>
      simp only [run_silent_buildInstall]
      cases hm : (Registry.merged env request).isComplete with
      | false => exact ⟨by simpa using .incomplete hv hc hr hm, rfl⟩
      | true =>
        rcases hi : (c.install (optionsFor env request o.port)).silent.run u
          with ⟨d'', x, e | _⟩
        · exact ⟨by simpa using .installFails hv hc hr hm hi, rfl⟩
        · exact ⟨by simpa using .installed hv hc hr hm hi, rfl⟩

/-- If the time that it took can be told, a run of the pipeline is the stages
between two records. -/
theorem run_timed {s : Observed σ} (ht : Telemetry.canTime s.clock = true) :
    let r := (stages c provider env request).run (Telemetry.opened operation s)
    ∃ duration, (run c provider env request).run s =
      ⟨Telemetry.recordEvent operation .start
        (s.telemetry.attributes.merge []) :: (r.events ++
          [Telemetry.recordEvent operation (Telemetry.endPhase r.outcome)
            (r.state.telemetry.attributes.merge
              (Telemetry.endExtra duration r.outcome))]),
        { Telemetry.recorded operation
          (Telemetry.endPhase r.outcome) r.state with
          clock := r.state.clock.tail },
        r.outcome⟩ := by
  have hclock :
      ((stages c provider env request).run
      (Telemetry.opened operation s)).state.clock =
      s.clock.tail :=
        (stages_course c provider env request (Telemetry.opened operation s)).2
  have htime : ((Telemetry.nextReading s.clock).since? (Telemetry.nextReading
      ((stages c provider env request).run
        (Telemetry.opened operation s)).state.clock)).isSome := by
    rw [hclock]
    exact ht
  obtain ⟨seconds, hseconds⟩ := Option.isSome_iff_exists.mp htime
  exact ⟨Telemetry.durationText seconds, Telemetry.run_during hseconds⟩

/-- A run of the pipeline is a course of the stages. It ends as this does if the
time that it took can be told. -/
theorem run_course (s : Observed σ) :
    let q := (run c provider env request).silent.run s
    ∃ r, Course c provider env request s.world ⟨q.events, q.state.world, r⟩ ∧
      q.outcome =
        if Telemetry.canTime s.clock then r else .error Telemetry.overflow := by
  obtain ⟨he, hw, ho⟩ :=
    Telemetry.run_silent_during operation (stages c provider env request) s
  obtain ⟨hc, hk⟩ :=
    stages_course c provider env request (Telemetry.opened operation s)
  refine ⟨((stages c provider env request).silent.run
    (Telemetry.opened operation s)).outcome, ?_, ?_⟩
  · rw [run, he, hw]
    exact hc
  · rw [run, ho, hk]
    rfl

variable {c provider env request} in
theorem course_of_ok {s : Observed σ} {o : Options}
    (h : ((run c provider env request).run s).outcome = .ok o) :
    Course c provider env request s.world
      ⟨deeds ((run c provider env request).run s).events,
        ((run c provider env request).run s).state.world, .ok o⟩ := by
  obtain ⟨r, hc, ho⟩ := run_course c provider env request s
  replace ho := h.symm.trans ho
  split at ho
  · rwa [← ho] at hc
  · exact nomatch ho

end SingleNode.Pipeline
