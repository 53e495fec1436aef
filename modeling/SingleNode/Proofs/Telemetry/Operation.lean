/-
# One operation of telemetry

Running an action as an operation reads the clock before and after it and puts
two records on file.  Apart from that the operation is the action: same deeds,
same end of the world, same outcome (`run_silent_during`).  The exception is a
duration that cannot be told: two whole readings that are too far apart for a
binary64 number.  A clock that hands out binary64 readings never has one
(`timed_of_real`).
-/
import SingleNode.Proofs.Act.Deeds

namespace SingleNode.Telemetry

variable {σ α : Type}

/-- The reading that a clock hands out next. -/
def nextReading (clock : List Reading) : Reading := clock.headD (.real .zero)

/-- Holds if the time between the next two readings can be told. -/
def canTime (clock : List Reading) : Bool :=
  ((nextReading clock).since? (nextReading clock.tail)).isSome

/-- The time between any two readings can be told. -/
def Timed (clock : List Reading) : Prop :=
  ∀ start ∈ Reading.real .zero :: clock, ∀ now ∈ Reading.real .zero :: clock,
    (start.since? now).isSome

theorem timed_of_real {clock : List Reading}
    (h : ∀ now ∈ clock, ∃ x, now = .real x) : Timed clock := by
  have real {now : Reading} (hn : now ∈ Reading.real .zero :: clock) :
      ∃ x, now = .real x := by
    rcases List.mem_cons.mp hn with rfl | hn
    · exact ⟨.zero, rfl⟩
    · exact h now hn
  intro start hs now hn
  obtain ⟨x, rfl⟩ := real hs
  obtain ⟨y, rfl⟩ := real hn
  rfl

theorem nextReading_mem (clock : List Reading) :
    nextReading clock ∈ Reading.real .zero :: clock := by
  cases clock with
  | nil => exact List.mem_cons_self
  | cons now later => exact List.mem_cons_of_mem _ List.mem_cons_self

theorem Timed.mono {clock later : List Reading} (h : Timed clock)
    (hl : ∀ now ∈ later, now ∈ clock) :
    Timed later := by
  intro start hs now hn
  exact h start (List.cons_subset_cons _ hl hs)
    now (List.cons_subset_cons _ hl hn)

theorem Timed.since {clock later : List Reading} (h : Timed clock)
    (hl : ∀ now ∈ later, now ∈ clock) :
    ((nextReading clock).since? (nextReading later)).isSome :=
  h _ (nextReading_mem _) _ (List.cons_subset_cons _ hl (nextReading_mem _))

theorem Timed.canTime {clock : List Reading} (h : Timed clock) :
    canTime clock = true :=
  h.since fun _ => List.mem_of_mem_tail

theorem run_readClock (s : Observed σ) :
    (readClock : Act (Observed σ) Reading).run s =
      ⟨[], { s with clock := s.clock.tail }, .ok (nextReading s.clock)⟩ := by
  obtain ⟨telemetry, clock, world⟩ := s
  cases clock <;> rfl

@[simp] theorem silent_readClock :
    (readClock : Act (Observed σ) Reading).silent = readClock := by
  funext s
  change readClock.silent.run s = readClock.run s
  rw [Act.run_silent, run_readClock, deeds_nil]

@[simp] theorem silent_setAttribute (key : String) (value : Datum) :
    (setAttribute key value : Act (Observed σ) Unit).silent =
      setAttribute key value := rfl

def recorded (operation : String) (phase : Phase) (s : Observed σ) :
    Observed σ :=
  { s with telemetry.records := s.telemetry.records ++ [(operation, phase)] }

/-- Every key with its value, in order. -/
def attributesText (attributes : Assoc Datum) : String :=
  "\x7b" ++ String.intercalate ", "
    (attributes.map fun b => Text.quoted b.1 ++ ": " ++ b.2.literal) ++ "\x7d"

theorem literal_record (attributes : Assoc Datum) :
    (Datum.record attributes).literal = attributesText attributes := by
  have fields (bs : List (String × Datum)) :
      Datum.fieldLiterals bs = bs.map fun b =>
        Text.quoted b.1 ++ ": " ++ b.2.literal := by
    induction bs with
    | nil => rfl
    | cons b rest ih => rw [Datum.fieldLiterals, ih, List.map_cons]
  rw [Datum.literal, fields, attributesText]

/-- The record of a phase, with all attributes. -/
def recordEvent (operation : String) (phase : Phase)
    (attributes : Assoc Datum) : Event :=
  let word := match phase with
    | .start => "start"
    | .success => "success"
    | .failed => "failed"
  .log .info
    ("telemetry " ++ operation ++ " " ++ word ++ " " ++
    attributesText attributes)

theorem run_record (operation : String) (phase : Phase)
    (extra : List (String × Datum)) (s : Observed σ) :
    (record operation phase extra : Act (Observed σ) Unit).run s =
      ⟨[recordEvent operation phase (s.telemetry.attributes.merge extra)],
        recorded operation phase s, .ok ()⟩ := by
  show (⟨[.log .info
    (recordText operation phase (s.telemetry.attributes.merge extra))], _, _⟩ :
    Report (Observed σ) Unit) = _
  rw [recordText, literal_record]
  cases phase <;> rfl

@[simp] theorem run_silent_record (operation : String) (phase : Phase)
    (extra : List (String × Datum)) (s : Observed σ) :
    (record operation phase extra : Act (Observed σ) Unit).silent.run s =
      ⟨[], recorded operation phase s, .ok ()⟩ := by
  rw [Act.run_silent, run_record]
  rfl

/-- The state in which the action of an operation starts. -/
def opened (operation : String) (s : Observed σ) : Observed σ :=
  { recorded operation .start s with clock := s.clock.tail }

theorem run_silent_elapsed (start : Reading) (s : Observed σ) :
    (elapsed start : Act (Observed σ) Datum).silent.run s =
      ⟨[], { s with clock := s.clock.tail },
        match start.since? (nextReading s.clock) with
        | some seconds => .ok (.text (seconds.hundredths ++ "s"))
        | none => .error overflow⟩ := by
  simp only [elapsed, Act.silent_bind, silent_readClock, Act.run_bind,
    run_readClock]
  cases start.since? (nextReading s.clock) <;> rfl

/-- An operation does what its action does and ends as it does, unless its
duration cannot be told. -/
theorem run_silent_during (operation : String) (x : Act (Observed σ) α)
    (s : Observed σ) :
    let r := x.silent.run (opened operation s)
    let q := (during operation x).silent.run s
    q.events = r.events ∧ q.state.world = r.state.world ∧
      q.outcome =
        if ((nextReading s.clock).since?
          (nextReading r.state.clock)).isSome then r.outcome
        else .error overflow := by
  have begins (f : Reading → Act (Observed σ) α) :
      ((record operation .start []).silent >>= fun _ => readClock >>= f).run s =
        (f (nextReading s.clock)).run (opened operation s) := by
    simp only [Act.run_bind, run_silent_record, run_readClock]
    rfl
  simp only [during, Act.silent_bind, silent_readClock, begins]
  simp only [Act.silent_attempt, Act.run_bind, Act.run_attempt]
  rcases x.silent.run (opened operation s) with ⟨es, t, e | a⟩
  all_goals
    simp only [Act.silent_bind, Act.run_bind, run_silent_elapsed]
    cases (nextReading s.clock).since? (nextReading t.clock) <;> simp [recorded]

/-! ## The last record -/

/-- The phase in which an operation with an outcome is put on record. -/
def endPhase : Except Failure α → Phase
  | .ok _ => .success
  | .error _ => .failed

/-- What is said of the end of an operation only: its duration, and its failure
if it failed. -/
def endExtra (duration : Datum) : Except Failure α → List (String × Datum)
  | .ok _ => [("duration", duration)]
  | .error e => [("error", .text e.literal), ("duration", duration)]

def durationText (seconds : Binary64) : Datum :=
  .text (seconds.hundredths ++ "s")

/-- Puts the end of an operation on record that began with a reading of the
clock. -/
def close (operation : String) (start : Reading) :
    Except Failure α → Act (Observed σ) α
  | .ok a => do
    let duration ← elapsed start
    record operation .success [("duration", duration)]
    return a
  | .error e => do
    let duration ← elapsed start
    record operation .failed [("error", .text e.literal),
      ("duration", duration)]
    Act.fail e

/-- The end of an operation depends on what its action left and how it ended,
and not on what it did. -/
theorem run_during_close (operation : String) (x : Act (Observed σ) α)
    (s : Observed σ) :
    (during operation x).run s =
      let r := x.run (opened operation s)
      let q := (close operation (nextReading s.clock) r.outcome).run r.state
      ⟨recordEvent operation .start (s.telemetry.attributes.merge []) ::
        (r.events ++ q.events), q.state, q.outcome⟩ := by
  have begins (f : Reading → Act (Observed σ) α) :
      (record operation .start [] >>= fun _ => readClock >>= f).run s =
        let q := (f (nextReading s.clock)).run (opened operation s)
        ⟨recordEvent operation .start (s.telemetry.attributes.merge []) ::
          q.events, q.state, q.outcome⟩ := by
    simp only [Act.run_bind, run_record, run_readClock]
    rfl
  rw [during, begins]
  simp only [Act.run_bind, Act.run_attempt]
  cases (x.run (opened operation s)).outcome <;> rfl

/-- If the time that it took can be told, an operation is the action between two
records, and ends as the action does. -/
theorem run_during {operation : String} {x : Act (Observed σ) α}
    {s : Observed σ} {seconds : Binary64}
    (h : (nextReading s.clock).since?
      (nextReading (x.run (opened operation s)).state.clock) =
      some seconds) :
    (during operation x).run s =
      let r := x.run (opened operation s)
      ⟨recordEvent operation .start (s.telemetry.attributes.merge []) ::
        (r.events ++
          [recordEvent operation (endPhase r.outcome)
            (r.state.telemetry.attributes.merge
              (endExtra (durationText seconds) r.outcome))]),
        { recorded operation (endPhase r.outcome) r.state with
          clock := r.state.clock.tail },
        r.outcome⟩ := by
  rw [run_during_close]
  rcases hx : x.run (opened operation s) with ⟨es, t, r⟩
  rw [hx] at h
  cases r with
  | error e =>
    simp only [close, elapsed, Act.run_bind, run_readClock, h, run_record,
      Act.run_pure, Act.run_fail, List.nil_append, List.append_nil]
    rfl
  | ok a =>
    simp only [close, elapsed, Act.run_bind, run_readClock, h, run_record,
      Act.run_pure, List.nil_append, List.append_nil]
    rfl

/-- The record of an operation that failed, with the failure. -/
def failedRecord (operation : String) (attributes : Assoc Datum) (e : Failure)
    (duration : Datum) :
    Event :=
  recordEvent operation .failed
    (attributes.merge [("error", .text e.literal), ("duration", duration)])

end SingleNode.Telemetry
