/-
# Programs of telemetry

A program sets attributes, runs operations one inside the other, returns and
raises failures, and what it does after an operation may depend on how that
ended (`Program`).  What it leaves on record is known from the program alone:
its outcome and its marks, which are the attributes that it sets and the phases
that it records, in order.  A run follows the marks (`Follows`), by induction on
the program; the case with an argument is that of an operation, where the run of
the body stands between two records (`follows_during`).

The time that an operation took has to be told, and between some whole readings
of the clock it cannot be (`Timed`).
-/
import SingleNode.Proofs.Assoc
import SingleNode.Proofs.Telemetry.Operation

namespace SingleNode.Telemetry

variable {σ ν α : Type}

/-- A program.  After an operation it goes on in a way that depends on how the
operation ended: it may catch a failure, or raise it again, or raise another. -/
inductive Program (ν : Type)
  | returns (v : ν)
  | raises (e : Failure)
  | sets (key : String) (value : Datum) (next : Program ν)
  | operation (name : String) (body : Program ν)
      (next : Except Failure ν → Program ν)

/-- What is left on record: an attribute that is set, or a phase that is
recorded. -/
inductive Mark
  | setting (key : String) (value : Datum)
  | record (operation : String) (phase : Phase)

namespace Mark

/-- The phases that are recorded. -/
def records : List Mark → List (String × Phase)
  | [] => []
  | .setting .. :: rest => records rest
  | .record operation phase :: rest => (operation, phase) :: records rest

/-- The attributes that are set. -/
def settings : List Mark → Assoc Datum
  | [] => []
  | .setting key value :: rest => (key, value) :: settings rest
  | .record .. :: rest => settings rest

theorem records_append (xs ys : List Mark) :
    records (xs ++ ys) = records xs ++ records ys := by
  induction xs with
  | nil => rfl
  | cons x rest ih =>
    cases x with
    | setting key value => exact ih
    | record operation phase => exact congrArg (_ :: ·) ih

theorem settings_append (xs ys : List Mark) :
    settings (xs ++ ys) = settings xs ++ settings ys := by
  induction xs with
  | nil => rfl
  | cons x rest ih =>
    cases x with
    | setting key value => exact congrArg (_ :: ·) ih
    | record operation phase => exact ih

end Mark

namespace Program

def run : Program ν → Act (Observed σ) ν
  | .returns v => pure v
  | .raises e => Act.fail e
  | .sets key value next => setAttribute key value >>= fun _ => next.run
  | .operation name body next =>
    Act.attempt (during name body.run) >>= fun r => (next r).run

/-- How a program ends. -/
def outcome : Program ν → Except Failure ν
  | .returns v => .ok v
  | .raises e => .error e
  | .sets _ _ next => next.outcome
  | .operation _ body next => (next body.outcome).outcome

/-- The marks of a program.  Those of the body of an operation stand between its
two records. -/
def marks : Program ν → List Mark
  | .returns _ | .raises _ => []
  | .sets key value next => .setting key value :: next.marks
  | .operation name body next =>
    .record name .start ::
      (body.marks ++ .record name (endPhase body.outcome) ::
      (next body.outcome).marks)

end Program

/-! ## Records in brackets -/

/-- Every start is followed by one end of the same operation, and what is in
between is so itself. -/
inductive Bracketed : List (String × Phase) → Prop
  | nil : Bracketed []
  | operation {name : String} {phase : Phase}
      {inner rest : List (String × Phase)} :
      phase ≠ .start → Bracketed inner → Bracketed rest →
      Bracketed ((name, .start) :: (inner ++ (name, phase) :: rest))

theorem endPhase_ne_start (r : Except Failure α) : endPhase r ≠ .start := by
  cases r with
  | ok a => exact nofun
  | error e => exact nofun

theorem endPhase_eq_success_iff (r : Except Failure α) :
    endPhase r = .success ↔ ∃ a, r = .ok a := by
  cases r with
  | ok a => exact ⟨fun _ => ⟨a, rfl⟩, fun _ => rfl⟩
  | error e => exact ⟨nofun, nofun⟩

theorem endPhase_eq_failed_iff (r : Except Failure α) :
    endPhase r = .failed ↔ ∃ e, r = .error e := by
  cases r with
  | ok a => exact ⟨nofun, nofun⟩
  | error e => exact ⟨fun _ => ⟨e, rfl⟩, fun _ => rfl⟩

theorem bracketed_marks (p : Program ν) : Bracketed (Mark.records p.marks) := by
  induction p with
  | returns v => exact .nil
  | raises e => exact .nil
  | sets key value next ih => exact ih
  | operation name body next ihbody ih =>
    rw [Program.marks, Mark.records, Mark.records_append]
    exact .operation (endPhase_ne_start _) ihbody (ih body.outcome)

/-! ## What is logged -/

/-- The bindings that do not depend on how the operation ended. -/
def lasting (xs : Assoc Datum) : Assoc Datum :=
  xs.filter fun b => b.1 != "error" && b.1 != "duration"

/-- One log record for each phase, with the attributes that were there then:
every key but the two that tell of the end has its value and its place. -/
inductive Logged : Assoc Datum → List Mark → List Event → Prop
  | nil (attributes : Assoc Datum) : Logged attributes [] []
  | setting {attributes : Assoc Datum} {key : String} {value : Datum}
      {marks : List Mark}
      {es : List Event} :
      Logged (attributes.insert key value) marks es →
      Logged attributes (.setting key value :: marks) es
  | record {attributes shown : Assoc Datum} {operation : String} {phase : Phase}
      {marks : List Mark}
      {es : List Event} :
      lasting shown = lasting attributes → Logged attributes marks es →
      Logged attributes (.record operation phase :: marks)
        (recordEvent operation phase shown :: es)

theorem Logged.append {attributes : Assoc Datum} {xs ys : List Mark}
    {es fs : List Event} (h : Logged attributes xs es)
    (h' : Logged (attributes.merge (Mark.settings xs)) ys fs) :
    Logged attributes (xs ++ ys) (es ++ fs) := by
  induction h with
  | nil => exact h'
  | setting _ ih => exact .setting (ih h')
  | record hs _ ih => exact .record hs (ih h')

theorem lasting_merge_endExtra (attributes : Assoc Datum) (duration : Datum)
    (r : Except Failure α) :
    lasting (attributes.merge (endExtra duration r)) = lasting attributes := by
  refine Assoc.filter_merge
    (p := fun key => key != "error" && key != "duration") ?_ attributes
  intro b hb
  cases r with
  | ok a =>
    obtain rfl := List.mem_singleton.mp hb
    rfl
  | error e =>
    rcases List.mem_cons.mp hb with rfl | hb
    · rfl
    · obtain rfl := List.mem_singleton.mp hb
      rfl

/-! ## Runs -/

/-- A run leaves the marks: it records the phases after those that were there,
sets the attributes, and logs the phases. -/
structure Follows (marks : List Mark) (s : Observed σ) (es : List Event)
    (t : Observed σ) : Prop where
  records : t.telemetry.records = s.telemetry.records ++ Mark.records marks
  attributes :
    t.telemetry.attributes = s.telemetry.attributes.merge (Mark.settings marks)
  logged : Logged s.telemetry.attributes marks es
  clock : ∀ now ∈ t.clock, now ∈ s.clock
  world : t.world = s.world

theorem follows_nil (s : Observed σ) : Follows [] s [] s :=
  ⟨(List.append_nil _).symm, rfl, .nil _, fun _ => id, rfl⟩

theorem Follows.append {xs ys : List Mark} {s t u : Observed σ}
    {es fs : List Event} (h : Follows xs s es t) (h' : Follows ys t fs u) :
    Follows (xs ++ ys) s (es ++ fs) u where
  records := by
    rw [h'.records, h.records, Mark.records_append, List.append_assoc]
  attributes := by
    rw [h'.attributes, h.attributes, Mark.settings_append, Assoc.merge_append]
  logged := h.logged.append (h.attributes ▸ h'.logged)
  clock now hn := h.clock now (h'.clock now hn)
  world := h'.world.trans h.world

theorem follows_setAttribute (key : String) (value : Datum) (s : Observed σ) :
    let r := (setAttribute key value : Act (Observed σ) Unit).run s
    Follows [.setting key value] s r.events r.state :=
  ⟨(List.append_nil _).symm, rfl, .setting (.nil _), fun _ => id, rfl⟩

/-- If the body of an operation leaves its marks, the operation leaves them
between its two records, and ends as the body does. -/
theorem follows_during {operation : String} {x : Act (Observed σ) α}
    {s : Observed σ} {marks : List Mark} (ht : Timed s.clock)
    (h : Follows marks (opened operation s) (x.run (opened operation s)).events
      (x.run (opened operation s)).state) :
    let r := (during operation x).run s
    r.outcome = (x.run (opened operation s)).outcome ∧
      Follows
        (.record operation .start ::
        (marks ++ [.record operation (endPhase r.outcome)])) s
        r.events r.state := by
  obtain ⟨hrecords, hattributes, hlogged, hclock, hworld⟩ := h
  have htime : ((nextReading s.clock).since? (nextReading
      (x.run (opened operation s)).state.clock)).isSome :=
    ht.since fun now hn => List.mem_of_mem_tail (hclock now hn)
  obtain ⟨seconds, hseconds⟩ := Option.isSome_iff_exists.mp htime
  rw [run_during hseconds]
  generalize x.run (opened operation s) =
    r at hrecords hattributes hlogged hclock hworld
  refine ⟨rfl, ?_, ?_, ?_, ?_, hworld⟩
  · show r.state.telemetry.records ++ [(operation, endPhase r.outcome)] = _
    rw [hrecords, Mark.records, Mark.records_append]
    simp [opened, recorded, Mark.records]
  · show r.state.telemetry.attributes = _
    rw [hattributes, Mark.settings, Mark.settings_append]
    simp [opened, recorded, Mark.settings]
  · refine .record rfl (hlogged.append ?_)
    rw [← hattributes]
    exact .record (lasting_merge_endExtra _ _ _) (.nil _)
  · intro now hn
    exact List.mem_of_mem_tail (hclock now (List.mem_of_mem_tail hn))

/-- A program ends as it says and leaves its marks. -/
theorem follows_run (p : Program ν) (s : Observed σ) (ht : Timed s.clock) :
    let r := (p.run : Act (Observed σ) ν).run s
    r.outcome = p.outcome ∧ Follows p.marks s r.events r.state := by
  induction p generalizing s with
  | returns v => exact ⟨rfl, follows_nil s⟩
  | raises e => exact ⟨rfl, follows_nil s⟩
  | sets key value next ih =>
    obtain ⟨ho, hf⟩ :=
      ih ((setAttribute key value : Act (Observed σ) Unit).run s).state ht
    exact ⟨ho, (follows_setAttribute key value s).append hf⟩
  | operation name body next ihbody ih =>
    have hopened : Timed (opened name s).clock :=
      ht.mono fun now hn => List.mem_of_mem_tail hn
    obtain ⟨hob, hfb⟩ := ihbody (opened name s) hopened
    obtain ⟨hod, hfd⟩ := follows_during ht hfb
    -- how the body ended decides what comes next, in the run and in the marks
    -- alike
    rw [hob] at hod
    rw [hod] at hfd
    obtain ⟨ho, hf⟩ :=
      ih body.outcome ((during name body.run).run s).state (ht.mono hfd.clock)
    have hrun :
        ((Program.operation name body next).run : Act (Observed σ) ν).run s =
          _ :=
      Act.run_bind_ok (Act.run_attempt (during name body.run) s)
    rw [hrun, hod]
    refine ⟨ho, ?_⟩
    have hmarks : (Program.operation name body next).marks =
        (.record name .start ::
          (body.marks ++ [.record name (endPhase body.outcome)])) ++
          (next body.outcome).marks := by
      simp [Program.marks]
    rw [hmarks]
    exact hfd.append hf

end SingleNode.Telemetry
