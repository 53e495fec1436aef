/-
# Telemetry

A telemetry records the start and the end of named operations and the attributes
that were set. Each record is a log line with all attributes so far, and with
the duration and the error of an operation that ended. Clock readings are whole
numbers of any size or binary64 numbers; once they run out the clock stands at
zero.
-/
import SingleNode.Act

namespace SingleNode

/-- A reading of the clock, in seconds. -/
inductive Reading
  | whole (n : Int)
  | real (x : Binary64)
  deriving DecidableEq, Repr

namespace Reading

/-- The reading as a binary64 number, unless it is too large for one. -/
def value? : Reading → Option Binary64
  | .whole n => Binary64.ofInt? n
  | .real x => some x

/-- The time from one reading to another, unless it cannot be taken in binary64
numbers. Two whole readings differ by a whole number, of which only the
difference has to fit. -/
def since? (start now : Reading) : Option Binary64 :=
  match start, now with
  | .whole m, .whole n => Binary64.ofInt? (n - m)
  | _, _ => do
    let x ← start.value?
    let y ← now.value?
    return y.sub x

end Reading

/-- The states of an operation that are recorded. -/
inductive Phase
  | start
  | success
  | failed
  deriving DecidableEq, Repr

def Phase.name : Phase → String
  | .start => "start"
  | .success => "success"
  | .failed => "failed"

/-- Attributes in the order of their first setting, and what was recorded of
operations. -/
structure Telemetry where
  attributes : Assoc Datum := []
  records : List (String × Phase) := []

/-- A state that is observed: the telemetry, the readings to come, and the
rest. -/
structure Observed (σ : Type) where
  telemetry : Telemetry
  clock : List Reading
  world : σ

namespace Act

variable {σ α : Type}

/-- Runs an action on the rest of an observed state. -/
def within (x : Act σ α) : Act (Observed σ) α := fun s =>
  let r := x s.world
  ⟨r.events, { s with world := r.state }, r.outcome⟩

end Act

namespace Telemetry

variable {σ α : Type}

def readClock : Act (Observed σ) Reading := fun s =>
  match s.clock with
  | [] => ⟨[], s, .ok (.real .zero)⟩
  | now :: later => ⟨[], { s with clock := later }, .ok now⟩

def setAttribute (key : String) (value : Datum) : Act (Observed σ) Unit :=
  Act.modify fun s =>
    { s with telemetry.attributes := s.telemetry.attributes.insert key value }

def recordText (operation : String) (phase : Phase)
    (attributes : Assoc Datum) : String :=
  "telemetry " ++ operation ++ " " ++ phase.name ++ " " ++
    (Datum.record attributes).literal

/-- Records a phase of an operation. What is said of this phase only comes after
the attributes, or in the place of an attribute with the same key. -/
def record (operation : String) (phase : Phase)
    (extra : List (String × Datum)) :
    Act (Observed σ) Unit := do
  Act.modify fun s =>
    { s with telemetry.records := s.telemetry.records ++ [(operation, phase)] }
  let s ← Act.get
  Act.info (recordText operation phase (s.telemetry.attributes.merge extra))

/-- What is raised when a whole number is too large for a binary64 number. -/
def overflow : Failure :=
  .plain .overflow (some "int too large to convert to float")

/-- The text of the time since a reading. -/
def elapsed (start : Reading) : Act (Observed σ) Datum := do
  let now ← readClock
  match start.since? now with
  | some seconds => return .text (seconds.hundredths ++ "s")
  | none => Act.fail overflow

/-- Runs an action as one operation, and records its start and how it ended. It
ends as the action does, unless its duration cannot be told: then the end is not
recorded. -/
def during (operation : String) (x : Act (Observed σ) α) : Act (Observed σ) α :=
  do
  record operation .start []
  let start ← readClock
  match ← Act.attempt x with
  | .ok a =>
    let duration ← elapsed start
    record operation .success [("duration", duration)]
    return a
  | .error e =>
    let duration ← elapsed start
    record operation .failed [("error", .text e.literal),
      ("duration", duration)]
    Act.fail e

end Telemetry

end SingleNode
