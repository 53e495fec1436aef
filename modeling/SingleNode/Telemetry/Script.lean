/-
# Telemetry scripts

A script is a program of attributes, raised failures, values and operations that
may be nested. Running one leaves, besides the log records of the telemetry, an
event for the end of every operation.
-/
import SingleNode.Telemetry

namespace SingleNode.Telemetry

/-- One step of a script. A failed operation raises its failure again, as a
plain error with the same text, if it is to propagate. -/
inductive Step
  | attribute (key : String) (value : Datum)
  | operation (name : String) (body : List Step) (propagate : Bool)
  | raise (e : Failure)
  | value (d : Datum)

namespace Step

mutual

/-- Runs one step; the value of the script so far goes in and comes out. -/
def run (last : Datum) : Step → Act (Observed Unit) Datum
  | .attribute key d => do
    setAttribute key d
    return last
  | .operation name body propagate => do
    let outcome ← Act.attempt (during name (runAll .null body))
    Act.emit (.ended name outcome)
    match outcome with
    | .error e =>
      if propagate then Act.fail (.plain .runtime (some e.message))
        else return last
    | .ok _ => return last
  | .raise e => Act.fail e
  | .value d => return d

def runAll (last : Datum) : List Step → Act (Observed Unit) Datum
  | [] => return last
  | step :: rest => do
    let last ← step.run last
    runAll last rest

end

end Step

end SingleNode.Telemetry
