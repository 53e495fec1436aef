/-
# The exit status of the program

The program ends with the status 0 exactly if the installation returned
(`exitStatus_of_install`).  What that means is told by
`Installation.Accomplished`: everything that had to be done was done and no
failure was passed over.  An installation that fails makes the status 1, and the
failure is printed at the very end, when the failure is on record and the
connection to the container engine is closed (`Complained`).

An interrupt of the user is no such failure; it has a status of its own.  And in
a session without a clock no installation returns: it fails where its operation
would be timed, before it comes to a connection.
-/
import SingleNode.Main
import SingleNode.Proofs.Installation.Accomplished

namespace SingleNode

/-! ## Installations that fail -/

namespace Pipeline

variable {σ : Type} {c : Collaborators σ} {provider : Cluster.Provider}
  {env : Settings.Environment}
  {request : Installation.Request} {s : Observed σ} {e : Failure}

/-- The record of the failure is the last thing that the pipeline does. -/
theorem events_of_run_error
    (h : ((run c provider env request).run s).outcome = .error e)
    (ht : Telemetry.canTime s.clock = true) :
    ∃ told attributes duration, ((run c provider env request).run s).events =
      told ++ [Telemetry.failedRecord operation attributes e duration] := by
  obtain ⟨duration, hr⟩ := run_timed c provider env request ht
  rw [hr] at h ⊢
  dsimp only at h ⊢
  rw [h]
  exact ⟨_ :: _, _, duration, rfl⟩

end Pipeline

namespace Installation

/-- Holds if the settings can be loaded, so that the operation is started. -/
def Starts (env : Settings.Environment) : Prop :=
  (∃ cluster, Cluster.Config.load [] env = .ok cluster) ∧
    ∃ chart, Chart.Coordinates.load [] env = .ok chart

/-- What is done about the connection in the end: it is closed, if the engine
let it be made. -/
def closing (engine : Engine) : List Event :=
  if engine.connectFailure.isNone then [.disconnect] else []

/-- The end of an installation that failed after its start, with what was done
about the connection last of all. -/
structure Failed (last : List Event) (timed : Prop) (e : Failure)
    (r : Report (Observed Machine) Options) : Prop where
  closed : r.state.world.connection.connected = false ∧
    ∃ told, r.events = told ++ last
  /-- The failure was put on record just before, if the duration of the
  operation can be told. -/
  recorded : timed → ∃ told attributes duration,
    r.events = told ++ Telemetry.failedRecord Pipeline.operation attributes e
      duration :: last

variable {env : Settings.Environment} {request : Request} {s : Observed Machine}
  {e : Failure}

theorem failed_of_runWith {cluster : Cluster.Config} {chart : Chart.Coordinates}
    (h : ((runWith cluster chart env request).run s).outcome = .error e) :
    Failed (closing s.world.engine) (Telemetry.canTime s.clock = true) e
      ((runWith cluster chart env request).run s) := by
  let t : Chart.Target := ⟨cluster.provider, cluster, chart⟩
  have hw : (runWith cluster chart env request).run s =
      (Act.ensure (Pipeline.run (collaborators t) t.provider env request)
        Machine.disconnect.within).run (begin cluster.commandTimeout s) := rfl
  rw [hw, Act.run_ensure] at h ⊢
  simp only [Act.run_within, Machine.run_disconnect] at h ⊢
  have hlinked :=
    Pipeline.linked_run t t.provider env request
    (s := begin cluster.commandTimeout s) rfl
  refine ⟨⟨rfl, ?_⟩, fun ht => ?_⟩
  · rw [hlinked.2]
    exact ⟨_, rfl⟩
  · obtain ⟨told, attributes, duration, htold⟩ :=
      Pipeline.events_of_run_error h ht
    rw [hlinked.2, htold]
    exact ⟨told, attributes, duration, List.append_assoc ..⟩

theorem starts_of_settings {settled : Cluster.Config × Chart.Coordinates}
    (h : settings none none env = .ok settled) : Starts env := by
  obtain ⟨cluster, chart⟩ := settled
  obtain ⟨hk, hc⟩ := settings_eq_ok_iff.mp h
  exact ⟨⟨cluster, hk⟩, chart, hc⟩

theorem not_starts_of_settings {invalid : Settings.Invalid}
    (h : settings none none env = .error invalid) : ¬Starts env := by
  rintro ⟨⟨cluster, hk⟩, chart, hc⟩
  exact nomatch h.symm.trans (settings_eq_ok_iff.mpr ⟨hk, hc⟩)

/-- An installation that fails does so before it has done anything, or after its
start. -/
theorem failed_of_run
    (h : ((run none none env request).run s).outcome = .error e) :
    (¬Starts env ∧ ((run none none env request).run s).events = []) ∨
      (Starts env ∧
        Failed (closing s.world.engine) (Telemetry.canTime s.clock = true) e
        ((run none none env request).run s)) := by
  cases hs : settings none none env with
  | error invalid =>
    refine .inl ⟨not_starts_of_settings hs, ?_⟩
    rw [run, hs]
    rfl
  | ok settled =>
    have hrun :
        run none none env request =
          runWith settled.1 settled.2 env request := by
      rw [run, hs, loaded_ok, pure_bind]
    rw [hrun] at h ⊢
    exact .inr ⟨starts_of_settings hs, failed_of_runWith h⟩

end Installation

/-! ## The program -/

namespace Session

open Installation (Starts Failed closing)

theorem showsAt_of_isMessage {least : LogLevel} {e : Event}
    (h : e.isMessage = false) :
    e.showsAt least = true := by
  cases e with
  | print | panel | log => exact nomatch h
  | _ => rfl

/-- What an installation has done can be told from what is shown of it. -/
theorem accomplished_shown {t : Chart.Target} {o : Installation.Options}
    {m : Machine} {es : List Event} {commands : List Machine.Command}
    (least : LogLevel) (h : Installation.Accomplished t o m es commands) :
    Installation.Accomplished t o m (es.filter fun e => e.showsAt least)
      commands where
  version := by
    obtain ⟨hasked, hengine⟩ := h.version
    exact ⟨List.mem_filter.mpr ⟨hasked, rfl⟩, hengine⟩
  ran := by
    rw [← h.ran, List.filter_filter]
    refine List.filter_congr fun e _ => ?_
    cases hc : e.isCommand with
    | false => rfl
    | true =>
      rw [showsAt_of_isMessage (Event.isMessage_of_isCommand e hc),
        Bool.and_self]
  listed := h.listed
  planned := h.planned
  installed := h.installed
  succeeded := h.succeeded

/-! ### Clocks -/

/-- What is done about the connection in the end.  Without a clock a run does
not come to it. -/
def closing (s : Session) : List Event :=
  if s.readings.isSome then Installation.closing s.observed.world.engine else []

/-- There is a clock, and the time between its next two readings can be told. -/
def CanTime (s : Session) : Prop :=
  s.readings.isSome = true ∧ Telemetry.canTime s.observed.clock = true

theorem runUntimed_of_settings
    {clusterArgs chartArgs : Option Settings.Arguments}
    {env : Settings.Environment} {settled : Cluster.Config × Chart.Coordinates}
    (h : Installation.settings clusterArgs chartArgs env = .ok settled)
    (s : Observed Machine) :
    (runUntimed clusterArgs chartArgs env).run s =
      ⟨[Telemetry.recordEvent Pipeline.operation .start []],
        Telemetry.recorded Pipeline.operation .start
          (Installation.begin settled.1.commandTimeout s),
        .error (memberless "World" "clock")⟩ := by
  rw [runUntimed, h, Installation.loaded_ok, pure_bind]
  simp only [Act.run_bind, Act.run_modify, Telemetry.run_record, Act.run_fail]
  rfl

variable {request : Installation.Request} {s : Session}
  {o : Installation.Options} {e : Failure}

theorem failed_of_runUntimed (env : Settings.Environment) (s : Observed Machine)
    (e : Failure) :
    (¬Starts env ∧ ((runUntimed none none env).run s).events = []) ∨
      (Starts env ∧ Failed [] False e ((runUntimed none none env).run s)) := by
  cases hs : Installation.settings none none env with
  | error invalid =>
    refine .inl ⟨Installation.not_starts_of_settings hs, ?_⟩
    rw [runUntimed, hs]
    rfl
  | ok settled =>
    refine .inr ⟨Installation.starts_of_settings hs, ⟨?_, ?_⟩, False.elim⟩
    · rw [runUntimed_of_settings hs]
      rfl
    · exact ⟨_, (List.append_nil _).symm⟩

/-- What an installation of a session does to the machine. -/
theorem run_install (request : Installation.Request) (s : Session) :
    let x := match s.readings with
      | some _ => Installation.run none none s.environment request
      | none => runUntimed none none s.environment
    (install none none request).run s = (onObserved x).run s := by
  simp only [install, Act.run_bind, Act.run_get]
  cases s.readings <;> rfl

theorem failed_of_install
    (h : ((install none none request).run s).outcome = .error e) :
    let r := (install none none request).run s
    (¬Starts s.environment ∧ r.events = []) ∨
      (Starts s.environment ∧ ∃ q, Failed s.closing s.CanTime e q ∧
        r.events = q.events ∧ r.state.observed = q.state) := by
  intro r
  have hr := run_install request s
  rw [hr] at h
  change r = _ at hr
  rw [hr, closing, CanTime]
  cases hc : s.readings with
  | none =>
    rcases failed_of_runUntimed s.environment s.observed e
      with hn | ⟨hs, hclosed, -⟩
    · exact .inl hn
    · exact .inr
        ⟨hs, _, ⟨hclosed, fun ht => absurd ht.1 Bool.false_ne_true⟩, rfl, rfl⟩
  | some readings =>
    rw [hc] at h
    rcases Installation.failed_of_run h with hn | ⟨hs, hclosed, hrecorded⟩
    · exact .inl hn
    · exact .inr ⟨hs, _, ⟨hclosed, fun ht => hrecorded ht.2⟩, rfl, rfl⟩

theorem run_of_install
    (h : ((install none none request).run s).outcome = .ok o) :
    (install none none request).run s =
      (onObserved (Installation.run none none s.environment request)).run
        s := by
  have hr := run_install request s
  rw [hr] at h ⊢
  cases hc : s.readings with
  | some readings => rfl
  | none =>
    rw [hc] at h
    change ((runUntimed none none s.environment).run s.observed).outcome =
      .ok o at h
    cases hs : Installation.settings none none s.environment with
    | error invalid =>
      rw [runUntimed, hs] at h
      exact nomatch h
    | ok settled =>
      rw [runUntimed_of_settings hs] at h
      exact nomatch h

/-! ### Command lines -/

/-- A command line that asks for an installation runs it, and ends with a
status. -/
theorem run_commandLine {words : List String} {verbose : Bool}
    (hw : CommandLine.readWish s.number? words =
      .ok (.install verbose request)) :
    let r := (install none none request).run s
    let least := if verbose then LogLevel.debug else LogLevel.info
    let shown := r.events.filter fun e => e.showsAt least
    (perform (.commandLine words false)).run s =
      match r.outcome with
      | .ok _ => ⟨shown, r.state, .ok (.exit 0)⟩
      | .error e =>
        if e.isInterrupt then ⟨shown, r.state, .ok (.exit 130)⟩
        else ⟨shown ++ [.print (complaint e)], r.state, .ok (.exit 1)⟩ := by
  intro r least shown
  have hx : (showing (if verbose then LogLevel.debug else LogLevel.info)
      (install none none request)).run s = ⟨shown, r.state, r.outcome⟩ := rfl
  simp only [perform, runCommandLine, hw, Bool.false_eq_true, if_false,
    runProgram, Act.run_bind, Act.run_get, Act.run_attempt, hx]
  cases r.outcome with
  | ok o => simp
  | error e =>
    by_cases he : e.isInterrupt = true
    · simp [he]
    · simp only [he, if_false, Act.print, Act.run_bind, Act.run_emit,
        Act.run_pure, List.nil_append, List.append_nil, Bool.false_eq_true]

/-- What the user has of an installation that failed: a status, and at the very
end the failure. -/
structure Complained (s : Session) (e : Failure)
    (q : Report Session Answer) : Prop where
  status : Main.exitStatus q.outcome = 1
  /-- If the settings cannot be loaded, there is nothing but that. -/
  unstarted : ¬Starts s.environment →
    q.events = [.print ("[red]❌ " ++ e.message ++ "[/red]")]
  /-- Else the connection was closed before. -/
  closed : Starts s.environment →
    q.state.observed.world.connection.connected = false ∧
    ∃ told, q.events = told ++
      (s.closing ++ [.print ("[red]❌ " ++ e.message ++ "[/red]")])
  /-- And before that the failure was put on record, if the duration can be
  told. -/
  recorded : Starts s.environment → s.CanTime → ∃ told attributes duration,
    q.events = told ++
      Telemetry.failedRecord "install" attributes e duration ::
      (s.closing ++ [.print ("[red]❌ " ++ e.message ++ "[/red]")])

theorem complained_of_install {q : Report Session Answer} (least : LogLevel)
    (h : ((install none none request).run s).outcome = .error e)
    (hq : q = ⟨((install none none request).run s).events.filter
        (fun e => e.showsAt least) ++ [.print (complaint e)],
      ((install none none request).run s).state, .ok (.exit 1)⟩) :
    Complained s e q := by
  subst hq
  have hclosing : s.closing.filter (fun e => e.showsAt least) = s.closing := by
    rw [closing, Installation.closing]
    split
    · split <;> rfl
    · rfl
  rcases failed_of_install h with ⟨hn, hnone⟩ | ⟨hs, x, hf, hevents, hstate⟩
  · refine ⟨rfl, fun _ => ?_, fun hs => absurd hs hn, fun hs => absurd hs hn⟩
    rw [hnone]
    rfl
  · obtain ⟨hclosed, told, htold⟩ := hf.closed
    refine ⟨rfl, fun hn => absurd hs hn, fun _ => ⟨?_, ?_⟩, fun _ ht => ?_⟩
    · rw [hstate]
      exact hclosed
    · rw [hevents, htold, List.filter_append, hclosing, List.append_assoc]
      exact ⟨_, rfl⟩
    · obtain ⟨told, attributes, duration, htold⟩ := hf.recorded ht
      refine ⟨told.filter fun e => e.showsAt least, attributes, duration, ?_⟩
      rw [hevents, htold, List.filter_append,
        List.filter_cons_of_pos rfl, hclosing, List.append_assoc]
      rfl

theorem status_of_error {words : List String} {verbose : Bool}
    (hw : CommandLine.readWish s.number? words =
      .ok (.install verbose request))
    (h : ((install none none request).run s).outcome = .error e) :
    Main.exitStatus ((perform (.commandLine words false)).run s).outcome =
      if e.isInterrupt then 130 else 1 := by
  rw [run_commandLine hw, h]
  cases hi : e.isInterrupt with
  | true => simp [hi, Main.exitStatus]
  | false => simp [hi, Main.exitStatus]

/-- An installation of a session that returns had a clock, and did what any
installation does that returns. -/
theorem accomplished_of_install
    (h : ((install none none request).run s).outcome = .ok o) :
    ∃ cluster chart commands,
      Cluster.Config.load [] s.environment = .ok cluster ∧
      Chart.Coordinates.load [] s.environment = .ok chart ∧
      Installation.Accomplished ⟨cluster.provider, cluster, chart⟩ o
        s.observed.world ((install none none request).run s).events
        commands := by
  have hr := run_of_install h
  rw [hr] at h ⊢
  have hrun : ((Installation.run none none s.environment request).run
      s.observed).outcome = .ok o := h
  obtain ⟨cluster, chart, hk, hc, hwith⟩ := Installation.loaded_of_run hrun
  obtain ⟨commands, ha⟩ := Installation.accomplished_of_runWith
    ((congrArg Report.outcome hwith).symm.trans hrun)
  rw [← hwith] at ha
  exact ⟨cluster, chart, commands, hk, hc, ha⟩

/-- The exit status tells whether the installation returned. -/
theorem exitStatus_of_install {words : List String} {verbose : Bool}
    {request : Installation.Request} (s : Session)
    (hw : CommandLine.readWish s.number? words =
      .ok (.install verbose request)) :
    let r := (install none none request).run s
    let q := (perform (.commandLine words false)).run s
    (Main.exitStatus q.outcome = 0 ↔ ∃ o, r.outcome = .ok o) ∧
    (Main.exitStatus q.outcome = 0 →
      ∃ o cluster chart commands, r.outcome = .ok o ∧
        Cluster.Config.load [] s.environment = .ok cluster ∧
        Chart.Coordinates.load [] s.environment = .ok chart ∧
        Installation.Accomplished ⟨cluster.provider, cluster, chart⟩ o
          s.observed.world q.events commands) ∧
    (∀ e, r.outcome = .error e → e.isInterrupt = false → Complained s e q) ∧
    ∀ e, r.outcome = .error e → e.isInterrupt = true →
      Main.exitStatus q.outcome = 130 := by
  intro r q
  have hq := run_commandLine hw
  change q = _ at hq
  cases ho : r.outcome with
  | ok o =>
    rw [show ((install none none request).run s).outcome = .ok o from ho] at hq
    have h0 : Main.exitStatus q.outcome = 0 := by
      rw [hq]
      rfl
    obtain ⟨cluster, chart, commands, hk, hc, ha⟩ := accomplished_of_install ho
    refine ⟨iff_of_true h0 ⟨o, rfl⟩, fun _ => ?_, nofun, nofun⟩
    rw [hq]
    exact ⟨o, cluster, chart, commands, rfl, hk, hc, accomplished_shown _ ha⟩
  | error e =>
    have hstatus := status_of_error hw ho
    have hfailed : Main.exitStatus q.outcome ≠ 0 := by
      rw [hstatus]
      split <;> decide
    refine ⟨iff_of_false hfailed nofun, fun h0 => absurd h0 hfailed, ?_, ?_⟩
    · intro e' he' hi
      obtain rfl := Except.error.inj he'
      rw [show ((install none none request).run s).outcome = .error e from ho]
        at hq
      exact complained_of_install _ ho
        (hq.trans (if_neg (ne_of_eq_of_ne hi Bool.false_ne_true)))
    · intro e' he' hi
      obtain rfl := Except.error.inj he'
      exact hstatus.trans (if_pos hi)

/-- A session on a machine on which the platform cannot be installed. -/
def brokenSession : Session where
  environment := ⟨"/root", []⟩
  number? := Text.readInteger?
  readings := some []
  observed :=
    { telemetry := {}
      clock := []
      world :=
        { rules :=
            [⟨["helm", "upgrade"], none, .exits 1 (.text "") (.text "timed out")⟩]
          tree := .empty ["work"] } }

/-- What a command line without options asks for. -/
def plainRequest : Installation.Request where
  deprecated := [⟨"--username", "ABCTL_LOCAL_INSTALL_USERNAME", none⟩,
    ⟨"--password", "ABCTL_LOCAL_INSTALL_PASSWORD", none⟩]

/-- There the command line fails with the status 1, and the complaint comes at
the very end. -/
theorem exitStatus_of_broken :
    let r := (install none none plainRequest).run brokenSession
    let q :=
      (perform (.commandLine ["local", "install"] false)).run brokenSession
    CommandLine.readWish Text.readInteger? ["local", "install"] =
      .ok (.install false plainRequest) ∧
    Main.exitStatus q.outcome = 1 ∧ ∃ e, r.outcome = .error e ∧
      e.message = "install: 'helm upgrade --install' failed: timed out" ∧
      Complained brokenSession e q := by
  intro r q
  have hw : CommandLine.readWish Text.readInteger? ["local", "install"] =
      .ok (.install false plainRequest) := by
    decide +kernel
  have h1 : Main.exitStatus q.outcome = 1 := by decide +kernel
  have hm : (match r.outcome with
      | .error e => some e.message
      | .ok _ =>
        none) = some "install: 'helm upgrade --install' failed: timed out" := by
    decide +kernel
  obtain ⟨h0, -, hc, h130⟩ := exitStatus_of_install brokenSession hw
  cases ho : r.outcome with
  | ok o => exact nomatch h1.symm.trans (h0.mpr ⟨o, ho⟩)
  | error e =>
    rw [ho] at hm
    have hi : e.isInterrupt = false := by
      cases hi : e.isInterrupt with
      | false => rfl
      | true => exact nomatch h1.symm.trans (h130 e ho hi)
    exact ⟨hw, h1, e, rfl, Option.some.inj hm, hc e ho hi⟩

end Session

end SingleNode
