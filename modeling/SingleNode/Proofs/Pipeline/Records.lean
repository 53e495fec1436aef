/-
# Records of installations

An installation is one operation of telemetry, and its stages record nothing
(`records_stages`).  So installations that share a telemetry leave a pair of
records each, one after the other, whatever happens to them (`records_runAll`).
-/
import SingleNode.Proofs.Act.Traces
import SingleNode.Proofs.Pipeline.Course
import SingleNode.Proofs.Telemetry.Program

namespace SingleNode.Pipeline

open Act (Tracing Traces)
open Installation (Options Request)
open Telemetry (Timed Follows Logged Bracketed Mark Program endPhase)

variable {σ : Type}

def Unrecorded (s : Observed σ) (_ : List Event) (t : Observed σ) : Prop :=
  t.telemetry.records = s.telemetry.records

theorem tracing_unrecorded : Tracing (Unrecorded (σ := σ)) where
  nil _ := rfl
  append h h' := h'.trans h

theorem unrecorded_within {α : Type} (x : Act σ α) :
    x.within.Traces Unrecorded := fun _ => rfl

variable (c : Collaborators σ) (provider : Cluster.Provider)
  (env : Settings.Environment) (request : Request)

theorem unrecorded_findEngine : (findEngine c).silent.Traces Unrecorded := by
  intro s
  rw [run_silent_findEngine]
  rcases c.version.silent.run s.world with ⟨d, w, e | v⟩
  · rfl
  · rfl

theorem unrecorded_stages :
    (stages c provider env request).silent.Traces Unrecorded := by
  have h : Tracing (Unrecorded (σ := σ)) := tracing_unrecorded
  rw [silent_stages]
  refine h.bind (unrecorded_findEngine c) fun _ =>
    h.bind (unrecorded_within _) fun r => ?_
  cases Provisioning.ready r with
  | error e => exact h.fail e
  | ok o =>
    dsimp only
    rw [Options.silent_build]
    refine h.bind (Tracing.ite (h.pure _) (h.fail _)) fun options => ?_
    exact h.bind (unrecorded_within (c.install options).silent) fun _ =>
      h.pure options

/-- The stages of an installation record nothing and do not read the clock. -/
theorem records_stages (s : Observed σ) :
    ((stages c provider env request).run s).state.telemetry.records =
      s.telemetry.records ∧
      ((stages c provider env request).run s).state.clock = s.clock :=
  ⟨unrecorded_stages c provider env request s,
    (stages_course c provider env request s).2⟩

theorem records_run {s : Observed σ} (ht : Timed s.clock) :
    let r := (run c provider env request).run s
    r.state.telemetry.records =
        s.telemetry.records ++
          [(operation, .start), (operation, endPhase r.outcome)] ∧
      ∀ now ∈ r.state.clock, now ∈ s.clock := by
  obtain ⟨hrecords, hclock⟩ :=
    records_stages c provider env request (Telemetry.opened operation s)
  obtain ⟨duration, hr⟩ := run_timed c provider env request ht.canTime
  rw [hr]
  generalize (stages c provider env request).run
    (Telemetry.opened operation s) = r at hrecords hclock
  constructor
  · show r.state.telemetry.records ++ [(operation, endPhase r.outcome)] = _
    rw [hrecords]
    exact List.append_assoc ..
  · intro now hn
    have hn : now ∈ r.state.clock.tail := hn
    rw [hclock] at hn
    exact List.mem_of_mem_tail (List.mem_of_mem_tail hn)

/-! ## Installations that share a telemetry -/

/-- One installation of several, each in a world of its own. -/
structure Attempt where
  {World : Type}
  world : World
  collaborators : Collaborators World
  provider : Cluster.Provider
  env : Settings.Environment
  request : Request

/-- Runs one installation after another, however they end: how they ended, and
the telemetry then. -/
def runAll : Telemetry → List Reading → List Attempt →
    List (Except Failure Options) × Telemetry
  | telemetry, _, [] => ([], telemetry)
  | telemetry, clock, a :: rest =>
    let r :=
      (run a.collaborators a.provider a.env a.request).run
      ⟨telemetry, clock, a.world⟩
    let later := runAll r.state.telemetry r.state.clock rest
    (r.outcome :: later.1, later.2)

theorem records_runAll (telemetry : Telemetry) {clock : List Reading}
    (ht : Timed clock) (attempts : List Attempt) :
    let r := runAll telemetry clock attempts
    r.1.length = attempts.length ∧ r.2.records =
      telemetry.records ++ r.1.flatMap fun o =>
        [(operation, .start), (operation, endPhase o)] := by
  induction attempts generalizing telemetry clock with
  | nil => exact ⟨rfl, (List.append_nil _).symm⟩
  | cons a rest ih =>
    obtain ⟨hrecords, hclock⟩ :=
      records_run a.collaborators a.provider a.env a.request
      (s := ⟨telemetry, clock, a.world⟩) ht
    obtain ⟨hlength, hlater⟩ := ih
      ((run a.collaborators a.provider a.env a.request).run
        ⟨telemetry, clock, a.world⟩).state.telemetry
      (ht.mono hclock)
    refine ⟨congrArg (· + 1) hlength, ?_⟩
    rw [runAll, hlater, hrecords, List.append_assoc]
    rfl

end SingleNode.Pipeline

namespace SingleNode.Telemetry

open Pipeline (runAll)

/-- A telemetry is well bracketed and keeps its attributes, if the time between
readings of its clock can be told.

What a program of nested operations records comes after the records that were
there, in brackets.  Each key has the last value given to it; keys stay in the
order in which they were first given; and each record is logged with the
attributes that were there then.  An operation is recorded by its start, the
records of its body and how it ended, and ends as its body does.  Installations
that share a telemetry leave a pair of records each, under one name. -/
theorem well_bracketed {σ ν : Type} (telemetry : Telemetry)
    {clock : List Reading} (ht : Timed clock) :
    (∀ (p : Program ν) (world : σ),
      let r := p.run.run ⟨telemetry, clock, world⟩
      r.outcome = p.outcome ∧
      r.state.telemetry.records = telemetry.records ++ Mark.records p.marks ∧
      Bracketed (Mark.records p.marks) ∧
      (∀ key, r.state.telemetry.attributes.get? key =
        (Assoc.get? key (Mark.settings p.marks).reverse).or
          (telemetry.attributes.get? key)) ∧
      r.state.telemetry.attributes.keys = telemetry.attributes.keys ++
        ((Mark.settings p.marks).keys.filter
          (· ∉ telemetry.attributes.keys)).eraseDups ∧
      Logged telemetry.attributes p.marks r.events) ∧
    (∀ (name : String) (body : Program ν) (world : σ),
      let r := (during name body.run).run ⟨telemetry, clock, world⟩
      r.outcome = body.outcome ∧
      ∃ phase, r.state.telemetry.records = telemetry.records ++
          (name, .start) :: (Mark.records body.marks ++ [(name, phase)]) ∧
        (phase = .success ↔ ∃ v, r.outcome = .ok v) ∧
          (phase = .failed ↔ ∃ e, r.outcome = .error e)) ∧
    ∀ attempts : List Pipeline.Attempt,
      let r := runAll telemetry clock attempts
      r.1.length = attempts.length ∧ r.2.records =
        telemetry.records ++ r.1.flatMap fun o =>
          [("install", .start), ("install", endPhase o)] := by
  refine ⟨?_, ?_, Pipeline.records_runAll telemetry ht⟩
  · intro p world
    obtain ⟨ho, hf⟩ := follows_run p ⟨telemetry, clock, world⟩ ht
    refine ⟨ho, hf.records, bracketed_marks p, ?_, ?_, hf.logged⟩
    · intro key
      rw [hf.attributes, Assoc.get?_merge]
    · rw [hf.attributes, Assoc.keys_merge]
  · intro name body world
    have hopened : Timed (opened name ⟨telemetry, clock, world⟩).clock :=
      ht.mono fun now hn => List.mem_of_mem_tail hn
    obtain ⟨ho, hf⟩ :=
      follows_run body (opened name ⟨telemetry, clock, world⟩) hopened
    obtain ⟨hd, hr⟩ := follows_during (s := ⟨telemetry, clock, world⟩) ht hf
    refine ⟨hd.trans ho, _, ?_, endPhase_eq_success_iff _,
      endPhase_eq_failed_iff _⟩
    rw [hr.records, Mark.records, Mark.records_append]
    rfl

/-- An operation that fails inside of one that goes on. -/
theorem well_bracketed_caught :
    Timed [.real .zero] ∧
    let inner : Program Nat :=
      .sets "key" (.text "value") (.raises (.plain .runtime none))
    let p : Program Nat :=
      .operation "outer" (.operation "inner" inner fun _ => .returns 1) fun
      | .ok v => .returns v
      | .error e => .raises e
    let r := p.run.run (⟨{}, [.real .zero], ()⟩ : Observed Unit)
    r.outcome = .ok 1 ∧ r.state.telemetry.records =
      [("outer", .start), ("inner", .start), ("inner", .failed),
        ("outer", .success)] := by
  have ht : Timed [.real .zero] :=
    timed_of_real fun now hn => ⟨.zero, List.mem_singleton.mp hn⟩
  refine ⟨ht, ?_⟩
  intro inner p
  obtain ⟨ho, hr, -⟩ := (well_bracketed {} ht).1 p ()
  exact ⟨ho, hr⟩

end SingleNode.Telemetry
