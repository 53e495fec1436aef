/-
# Deprecated flags

Flags that are deprecated are in a request only to be reported.  Whether a flag
was used is all that matters: a run does not depend on the values of such flags,
in nothing that it does (`run_congr`).

What a run makes of them stands at one place.  The stages are everything up to a
cluster that is ready (`prepare`), then the warnings, then the credentials and
the installer (`conclude`), and neither of the other two parts has the flags
(`stages_eq`).  So a run that gets to the options differs from the run without
deprecated flags by the warnings only, one for each flag that was used, in
order, and at that time nothing has been installed and no credentials have been
refused (`Warned`).
-/
import SingleNode.Proofs.Act.Traces
import SingleNode.Proofs.Pipeline.StageOrder
import SingleNode.Proofs.Provisioning.Transcript

namespace SingleNode

/-! ## Warnings -/

namespace Installation

namespace DeprecatedFlag

/-- The same flag, used in both cases or in neither.  The values may be
different. -/
structure UsedAlike (d d' : DeprecatedFlag) : Prop where
  flag : d'.flag = d.flag
  envName : d'.envName = d.envName
  isSome_eq : d'.value.isSome = d.value.isSome

/-- What is printed for a flag that was used. -/
def notice (d : DeprecatedFlag) : Event :=
  .print ("[yellow]⚠️  " ++
    ("The " ++ d.flag ++ " flag (and " ++ d.envName ++
      ") is deprecated and ignored. " ++
      "Credentials are generated during installation and can be retrieved " ++
      "with 'abctl local credentials'.") ++ "[/yellow]")

theorem UsedAlike.warning {d d' : DeprecatedFlag} (h : UsedAlike d d') :
    d'.warning = d.warning := by
  rw [DeprecatedFlag.warning, DeprecatedFlag.warning, h.flag, h.envName]

theorem warnings_congr {flags flags' : List DeprecatedFlag}
    (h : List.Forall₂ UsedAlike flags flags') :
    warnings flags' = warnings flags := by
  induction h with
  | nil => rfl
  | @cons d d' flags flags' hd _ ih =>
    rw [warnings, warnings] at ih ⊢
    rw [List.filter_cons, List.filter_cons, used, used, hd.isSome_eq]
    cases d.value.isSome with
    | true =>
      rw [if_pos rfl, if_pos rfl, List.map_cons, List.map_cons, hd.warning, ih]
    | false => rw [if_neg Bool.false_ne_true, if_neg Bool.false_ne_true, ih]

theorem run_warn {σ : Type} (flags : List DeprecatedFlag) (s : σ) :
    (warn flags).run s = ⟨(flags.filter fun d => d.value.isSome).map notice, s,
      .ok ()⟩ := by
  have hused : used = fun d => d.value.isSome := rfl
  rw [warn, warnings, Act.forEach_map, hused]
  induction flags.filter fun d => d.value.isSome with
  | nil => rfl
  | cons d rest ih =>
    have hone : (Act.print ("[yellow]⚠️  " ++ d.warning ++ "[/yellow]")).run s =
        ⟨[notice d], s, .ok ()⟩ := rfl
    rw [Act.forEach, Act.run_bind_ok hone, ih]
    rfl

end DeprecatedFlag

end Installation

/-! ## The stages -/

namespace Pipeline

open Installation (DeprecatedFlag Options Request)
open Installation.DeprecatedFlag (UsedAlike notice)

variable {σ : Type} (c : Collaborators σ) (provider : Cluster.Provider)

/-- The stages up to a cluster that is ready. -/
def prepare (port : Int) (specs : List String) :
    Act (Observed σ) Provisioning.Outcome := do
  Act.emit (.stage "Starting installation")
  findEngine c
  let outcome ← (Provisioning.run c provider port specs).within
  Act.ofExcept outcome.toExcept
  return outcome

/-- What comes after the warnings: the installer is called, unless the
credentials are refused. -/
def conclude (options : Except Failure Options) : Act (Observed σ) Options := do
  let o ← Act.ofExcept options
  Act.onFault (c.install o).within
    (Act.print "[red]Unable to install Airbyte locally[/red]")
  Act.print farewell
  return o

/-- The warnings stand between two parts of the stages that do not have the
flags. -/
theorem stages_eq (env : Settings.Environment) (request : Request) :
    stages c provider env request =
      prepare c provider request.port request.volumes >>= fun o =>
        DeprecatedFlag.warn request.deprecated >>= fun _ =>
          conclude c (Options.checked env request o.port) := by
  simp only [stages, prepare, conclude, Options.build_eq, bind_assoc, pure_bind]

/-- A run does not depend on the values of deprecated flags. -/
theorem run_congr (env : Settings.Environment) {request : Request}
    {flags : List DeprecatedFlag}
    (h : List.Forall₂ UsedAlike request.deprecated flags) :
    run c provider env { request with deprecated := flags } =
      run c provider env request := by
  have hwarn : (DeprecatedFlag.warn flags : Act (Observed σ) Unit) =
      DeprecatedFlag.warn request.deprecated := by
    rw [DeprecatedFlag.warn, DeprecatedFlag.warn,
      DeprecatedFlag.warnings_congr h]
  rw [run, run, stages_eq, stages_eq]
  exact congrArg (Telemetry.during operation)
    (congrArg _ (funext fun o => congrArg (· >>= _) hwarn))

/-! ## What is called before the warnings -/

/-- The log goes on from the first state to the second, and the installer is not
among the calls. -/
def CallsBefore (s t : Observed (Logged σ)) : Prop :=
  ∃ log, t.world.log = s.world.log ++ log ∧ ∀ x ∈ log, x.isInstall = false

theorem CallsBefore.refl (s : Observed (Logged σ)) : CallsBefore s s :=
  ⟨[], (List.append_nil _).symm, fun _ hx => nomatch hx⟩

theorem CallsBefore.trans {s t u : Observed (Logged σ)} (h : CallsBefore s t)
    (h' : CallsBefore t u) :
    CallsBefore s u := by
  obtain ⟨log, hlog, hs⟩ := h
  obtain ⟨more, hmore, ht⟩ := h'
  refine ⟨log ++ more, ?_, ?_⟩
  · rw [hmore, hlog, List.append_assoc]
  · intro x hx
    rcases List.mem_append.mp hx with hx | hx
    · exact hs x hx
    · exact ht x hx

theorem tracing_callsBefore :
    Act.Tracing fun (s : Observed (Logged σ)) (_ : List Event) t =>
      CallsBefore s t where
  nil := .refl
  append h h' := h.trans h'

theorem callsBefore_findEngine : (findEngine c.logged).Traces fun s _ t =>
    CallsBefore s t := by
  have hP := tracing_callsBefore (σ := σ)
  have note (key : String) (value : Datum) :
      (Telemetry.setAttribute key value).Traces
        fun (s : Observed (Logged σ)) _ t => CallsBefore s t :=
    Act.traces_modify hP.nil
  have say (text : String) :
      (Act.print text).Traces fun (s : Observed (Logged σ)) _ t =>
        CallsBefore s t :=
    Act.traces_emit hP.nil
  have ask : c.logged.version.within.Traces fun s _ t => CallsBefore s t := by
    intro s
    refine ⟨[.version (c.version.run s.world.world).outcome], rfl, ?_⟩
    intro x hx
    rw [List.mem_singleton.mp hx]
    rfl
  refine hP.bind (say _) fun _ => hP.bind (hP.onFault ask (say _)) fun v => ?_
  exact hP.bind (note _ _) fun _ => hP.bind (note _ _) fun _ =>
    hP.bind (note _ _) fun _ => say _

theorem isInstall_of_transcript {port : Int} {specs : List String}
    {log : List Entry} {r : Except Failure Provisioning.Outcome}
    (h : Provisioning.Transcript provider port specs log r) :
    ∀ x ∈ log, x.isInstall = false := by
  cases h <;> simp

theorem callsBefore_prepare (port : Int) (specs : List String) :
    (prepare c.logged provider port specs).Traces fun s _ t =>
      CallsBefore s t := by
  have hP := tracing_callsBefore (σ := σ)
  have provision :
      (Provisioning.run c.logged provider port specs).within.Traces fun s _ t =>
        CallsBefore s t := by
    intro s
    obtain ⟨log, hlog, -, ht⟩ :=
      Provisioning.exists_transcript c provider port specs s.world
    exact ⟨log, hlog, isInstall_of_transcript provider ht⟩
  refine hP.bind (Act.traces_emit hP.nil) fun _ =>
    hP.bind (callsBefore_findEngine c) fun _ => ?_
  exact hP.bind provision fun o => hP.bind (hP.ofExcept _) fun _ => hP.pure o

/-! ## The two runs -/

section Runs

variable (env : Settings.Environment) (request : Request)

/-- The warnings of a run, one for each flag that was used, in order. -/
def notices : List Event :=
  (request.deprecated.filter fun d => d.value.isSome).map notice

/-- What a run is to the run without deprecated flags, if a cluster is ready
with the report `p`. -/
structure Warned (s : Observed (Logged σ))
    (p : Report (Observed (Logged σ)) Provisioning.Outcome)
    (o : Provisioning.Outcome)
    (q plain : Report (Observed (Logged σ)) Options) : Prop where
  /-- Nothing is installed before the warnings. -/
  before : CallsBefore s p.state
  /-- The warnings come after the cluster is ready, and what the installer does
  comes after them. -/
  events : ∃ start after, plain.events = start :: (p.events ++ after) ∧
    q.events = start :: (p.events ++ (notices request ++ after)) ∧
    ((Registry.merged env request).isComplete = true → ∃ rest,
      after =
        ((c.install (optionsFor env request o.port)).run
        p.state.world.world).events ++ rest)
  state : q.state = plain.state
  outcome : q.outcome = plain.outcome
  /-- Credentials are refused after the warnings, and then nothing more is
  called. -/
  refused : (Registry.merged env request).isComplete = false →
    q.state.world.log = p.state.world.log ∧ (Telemetry.canTime s.clock = true →
      q.outcome = .error (.fault (Options.incompleteFault env request)))
  installed : (Registry.merged env request).isComplete = true → ∃ answer,
    q.state.world.log = p.state.world.log ++
      [.install (optionsFor env request o.port) answer]

section Ready

variable {s : Observed σ} {es : List Event} {t : Observed σ}

theorem run_of_not_ready {e : Failure}
    (hp : (prepare c provider request.port request.volumes).run
      (Telemetry.opened operation s) = ⟨es, t, .error e⟩) :
    (run c provider env request).run s =
      let z :=
        (Telemetry.close operation (Telemetry.nextReading s.clock)
        (.error e)).run t
      ⟨Telemetry.recordEvent operation .start
        (s.telemetry.attributes.merge []) :: (es ++ z.events),
        z.state, z.outcome⟩ := by
  have hstages :
      (stages c provider env request).run (Telemetry.opened operation s) =
        ⟨es, t, .error e⟩ := by
    rw [stages_eq, Act.run_bind_error hp]
  rw [run, Telemetry.run_during_close, hstages]

theorem run_stages_of_ready {o : Provisioning.Outcome}
    (hp : (prepare c provider request.port
      request.volumes).run s = ⟨es, t, .ok o⟩) :
    (stages c provider env request).run s =
      let k := (conclude c (Options.checked env request o.port)).run t
      ⟨es ++ (notices request ++ k.events), k.state, k.outcome⟩ := by
  rw [stages_eq, Act.run_bind_ok hp,
    Act.run_bind_ok (DeprecatedFlag.run_warn request.deprecated t)]
  rfl

theorem run_of_ready {o : Provisioning.Outcome}
    (hp : (prepare c provider request.port
      request.volumes).run (Telemetry.opened operation s) = ⟨es, t, .ok o⟩) :
    (run c provider env request).run s =
      let k := (conclude c (Options.checked env request o.port)).run t
      let z :=
        (Telemetry.close operation (Telemetry.nextReading s.clock)
        k.outcome).run k.state
      ⟨Telemetry.recordEvent operation .start
        (s.telemetry.attributes.merge []) ::
          (es ++ (notices request ++ (k.events ++ z.events))), z.state,
            z.outcome⟩ := by
  rw [run, Telemetry.run_during_close,
    run_stages_of_ready c provider env request hp]
  simp only [List.append_assoc]

end Ready

theorem world_run (s : Observed σ) :
    ((run c provider env request).run s).state.world =
      ((stages c provider env request).run
        (Telemetry.opened operation s)).state.world :=
  (Telemetry.run_silent_during operation (stages c provider env request) s).2.1

theorem outcome_run {s : Observed σ} (ht : Telemetry.canTime s.clock = true) :
    ((run c provider env request).run s).outcome =
      ((stages c provider env request).run
        (Telemetry.opened operation s)).outcome := by
  obtain ⟨duration, hrun⟩ := run_timed c provider env request ht
  rw [hrun]

theorem run_conclude_ok (o : Options) (t : Observed (Logged σ)) :
    let k := (conclude c.logged (.ok o)).run t
    (∃ rest, k.events = ((c.install o).run t.world.world).events ++ rest) ∧
      ∃ answer, k.state.world.log = t.world.log ++ [.install o answer] := by
  have hcall : (c.logged.install o).within.run t =
      ⟨((c.install o).run t.world.world).events,
        { t with
          world :=
            ⟨t.world.log ++ [.install o ((c.install o).run t.world.world).outcome],
              ((c.install o).run t.world.world).state⟩ },
        ((c.install o).run t.world.world).outcome⟩ := rfl
  have hconclude : conclude c.logged (.ok o) =
      Act.onFault (c.logged.install o).within
          (Act.print "[red]Unable to install Airbyte locally[/red]") >>=
            fun _ =>
        Act.print farewell >>= fun _ => pure o := rfl
  rw [hconclude, Act.run_bind, Act.onFault, Act.run_handle, hcall]
  cases ((c.install o).run t.world.world).outcome with
  | ok _ => exact ⟨⟨_, rfl⟩, _, rfl⟩
  | error e =>
    cases e with
    | fault f => exact ⟨⟨_, rfl⟩, _, rfl⟩
    | _ => exact ⟨⟨[], by simp⟩, _, rfl⟩

variable {env request} in
theorem checked_of_complete
    (h : (Registry.merged env request).isComplete = true) (port : Int) :
    Options.checked env request port = .ok (optionsFor env request port) :=
  if_pos h

variable {env request} in
theorem checked_of_incomplete
    (h : (Registry.merged env request).isComplete = false) (port : Int) :
    Options.checked env request port =
      .error (.fault (Options.incompleteFault env request)) :=
  if_neg (ne_of_eq_of_ne h Bool.false_ne_true)

/-- If a cluster is ready the run prints the warnings, and is otherwise the run
without deprecated flags. -/
theorem warned_of_ready {s t : Observed (Logged σ)} {es : List Event}
    {o : Provisioning.Outcome}
    (hp : (prepare c.logged provider request.port request.volumes).run
      (Telemetry.opened operation s) =
      ⟨es, t, .ok o⟩) :
    Warned c env request s ⟨es, t, .ok o⟩
      o ((run c.logged provider env request).run s)
      ((run c.logged provider env { request with deprecated := [] }).run
        s) := by
  have hstages := run_stages_of_ready c.logged provider env request hp
  have hworld := world_run c.logged provider env request s
  rw [hstages] at hworld
  have hq := run_of_ready c.logged provider env request hp
  have hplain :=
    run_of_ready c.logged provider env { request with deprecated := [] } hp
  refine ⟨?_, ?_, ?_, ?_, ?_, ?_⟩
  · have :=
      callsBefore_prepare c provider request.port request.volumes
      (Telemetry.opened operation s)
    rwa [hp] at this
  · let k := (conclude c.logged (Options.checked env request o.port)).run t
    let z :=
      (Telemetry.close operation (Telemetry.nextReading s.clock) k.outcome).run
      k.state
    refine ⟨_, k.events ++ z.events, congrArg Report.events hplain,
      congrArg Report.events hq, ?_⟩
    intro hm
    obtain ⟨⟨rest, hrest⟩, -⟩ :=
      run_conclude_ok c (optionsFor env request o.port) t
    rw [← checked_of_complete hm] at hrest
    refine ⟨rest ++ z.events, ?_⟩
    rw [← List.append_assoc, ← hrest]
  · exact (congrArg Report.state hq).trans (congrArg Report.state hplain).symm
  · exact (congrArg Report.outcome hq).trans
      (congrArg Report.outcome hplain).symm
  · intro hm
    rw [checked_of_incomplete hm] at hworld hstages
    refine ⟨congrArg Logged.log hworld, fun ht => ?_⟩
    rw [outcome_run c.logged provider env request ht, hstages]
    rfl
  · intro hm
    rw [checked_of_complete hm] at hworld
    obtain ⟨-, answer, hanswer⟩ :=
      run_conclude_ok c (optionsFor env request o.port) t
    exact ⟨answer, (congrArg Logged.log hworld).trans hanswer⟩

/-- Deprecated flags have no influence but for the warnings. -/
theorem run_deprecated (env : Settings.Environment) (request : Request) :
    (∀ flags, List.Forall₂ UsedAlike request.deprecated flags →
      run c provider env { request with deprecated := flags } =
        run c provider env request) ∧
    ∀ s : Observed (Logged σ),
      let p :=
        (prepare c.logged provider request.port request.volumes).run
        (Telemetry.opened operation s)
      let q := (run c.logged provider env request).run s
      let plain :=
        (run c.logged provider env { request with deprecated := [] }).run s
      (∀ e, p.outcome = .error e → q = plain) ∧
        ∀ o, p.outcome = .ok o → Warned c env request s p o q plain := by
  refine ⟨fun flags h => run_congr c provider env h, ?_⟩
  intro s p q plain
  refine ⟨?_, ?_⟩
  · intro e he
    have hp : (prepare c.logged provider request.port request.volumes).run
        (Telemetry.opened operation s) = ⟨p.events, p.state, .error e⟩ := by
      rw [← he]
    exact (run_of_not_ready c.logged provider env request hp).trans
      (run_of_not_ready c.logged provider env
        { request with deprecated := [] } hp).symm
  · intro o ho
    have hp : (prepare c.logged provider request.port request.volumes).run
        (Telemetry.opened operation s) = ⟨p.events, p.state, .ok o⟩ := by
      rw [← ho]
    have hw : p = ⟨p.events, p.state, .ok o⟩ := hp
    rw [hw]
    exact warned_of_ready c provider env request hp

end Runs

end Pipeline

end SingleNode
