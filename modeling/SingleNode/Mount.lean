/-
# Volume mounts

A mount spec is a host path and a path inside the node with one colon between.
Both may be empty here; the cluster refuses empty paths when it is created. A
flag value may hold several specs separated by commas.
-/
import SingleNode.Failure
import SingleNode.Text.Blank

namespace SingleNode

/-- A host path and the path in the node at which it appears. -/
structure Mount where
  hostPath : String
  containerPath : String
  deriving DecidableEq, Repr

/-- The items of repeated flag values that may each be separated by commas, in
order. Empty items are dropped unless they are to be kept. -/
def flagItems (keepEmpty : Bool) (values : List String) : List String :=
  (values.flatMap (Text.split ',')).filter fun item => keepEmpty || item != ""

namespace Mount

/-- The fault for a spec that has not exactly one colon. -/
def malformed (spec : String) : Fault where
  kind := .validation
  detail :=
    s!"volume {spec} is not a valid volume spec, must be <HOST_PATH>:<GUEST_PATH>"

def parse (spec : String) : Except Fault Mount :=
  match Text.split ':' spec with
  | [host, container] => .ok ⟨host, container⟩
  | _ => .error (malformed spec)

/-- Reads mount specs in order, up to the first that is malformed. -/
def parseAll : List String → Except Fault (List Mount)
  | [] => .ok []
  | spec :: rest => do
    let mount ← parse spec
    let mounts ← parseAll rest
    return mount :: mounts

def spec (m : Mount) : String := m.hostPath ++ ":" ++ m.containerPath

/-- Holds if a path of the mount is empty. -/
def isIncomplete (m : Mount) : Bool := m.hostPath = "" || m.containerPath = ""

theorem isIncomplete_eq_false_iff {m : Mount} :
    m.isIncomplete = false ↔ m.hostPath ≠ "" ∧ m.containerPath ≠ "" := by
  simp [isIncomplete]

end Mount

end SingleNode
