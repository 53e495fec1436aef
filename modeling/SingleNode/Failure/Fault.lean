/-
# Faults of the workflow

A `Fault` is an error of the workflow itself: it has a class, a stage and, when
it was raised because of something else, the class of that cause. The stage is
that of its class unless another is given.
-/
import SingleNode.Failure.Outside

namespace SingleNode

/-- The classes of workflow error. `portIntrospection` is a kind of
`indeterminateState`, and all are kinds of `general`. -/
inductive FaultClass
  | general
  | validation
  | runtimeUnavailable
  | portUnavailable
  | indeterminateState
  | portIntrospection
  | resourceCreation
  | install
  | cancelled
  deriving DecidableEq, Repr

namespace FaultClass

def all : List FaultClass :=
  [.general, .validation, .runtimeUnavailable, .portUnavailable,
    .indeterminateState,
    .portIntrospection, .resourceCreation, .install, .cancelled]

def name : FaultClass → String
  | .general => "LocalInstallError"
  | .validation => "ValidationError"
  | .runtimeUnavailable => "RuntimeUnavailableError"
  | .portUnavailable => "PortUnavailableError"
  | .indeterminateState => "IndeterminateStateError"
  | .portIntrospection => "PortIntrospectionError"
  | .resourceCreation => "ResourceCreationError"
  | .install => "InstallError"
  | .cancelled => "OperationCancelledError"

/-- The stage of an error of the class that names no other. -/
def stage : FaultClass → String
  | .general => "local install"
  | .validation => "validation"
  | .runtimeUnavailable => "pre-check"
  | .portUnavailable => "pre-check"
  | .indeterminateState => "cluster lookup"
  | .portIntrospection => "port introspection"
  | .resourceCreation => "cluster creation"
  | .install => "install"
  | .cancelled => "local install"

/-- Holds if every error of the first class is one of the second. -/
def isA (c d : FaultClass) : Bool :=
  c = d || d = .general || (c = .portIntrospection && d = .indeterminateState)

def ofName? (s : String) : Option FaultClass :=
  all.find? fun c => c.name = s

end FaultClass

/-- What a fault was raised because of. -/
inductive Cause
  | commandMissing
  | deadline
  | exitStatus (status : Int)
  | engine (error : EngineError)
  | file (problem : FileProblem)
  | portBusy
  | fault (kind : FaultClass)
  | settings
  deriving DecidableEq, Repr

namespace Cause

def name : Cause → String
  | .commandMissing => "CommandNotFound"
  | .deadline => "TimeoutException"
  | .exitStatus (.ofNat n) => s!"ErrorReturnCode_{n}"
  | .exitStatus (.negSucc n) => s!"SignalException_{n + 1}"
  | .engine e => e.name
  | .file p => p.name
  | .portBusy => "OSError"
  | .fault c => c.name
  | .settings => "ValidationError"

end Cause

/-- An error of the workflow. -/
structure Fault where
  kind : FaultClass
  detail : String
  stage : String := kind.stage
  cause : Option Cause := none
  deriving DecidableEq, Repr

/-- The text of a fault names its stage first. -/
def Fault.message (f : Fault) : String :=
  f.stage ++ ": " ++ f.detail

end SingleNode
