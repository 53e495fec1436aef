/-
# Ports

Which port an installation uses. The port of a cluster that is already there
wins over the one asked for; if it cannot be read the port asked for is used and
the user is warned. A host port is read from the mappings that the container
engine reports: the first mapping that names a usable port counts.
-/
import SingleNode.Act
import SingleNode.Text.Integer

namespace SingleNode

/-- The result of comparing the port asked for with the port of the cluster. -/
structure PortChoice where
  requested : Int
  effective : Int
  conflict : Bool := false
  determinable : Bool := true
  deriving DecidableEq, Repr

namespace PortChoice

/-- The resolution for a port that was read. -/
def observed (requested port : Int) : PortChoice where
  requested := requested
  effective := port
  conflict := port ≠ requested

/-- The resolution when the port cannot be read. -/
def undetermined (requested : Int) : PortChoice where
  requested := requested
  effective := requested
  determinable := false

/-- What the user has to be told. -/
def warning? (r : PortChoice) : Option String :=
  if !r.determinable then
    some ("Unable to determine which port the existing cluster was configured to use.\n" ++
      "Installation will continue but may ultimately fail, in which case it will be " ++
      "necessary to uninstall first.")
  else if r.conflict then
    some ("The existing cluster was found to be using port " ++
      toString r.effective ++
      ", which differs from the provided port " ++
        toString r.requested ++ ".\n" ++
      "The existing port will be used, as changing ports currently requires the " ++
      "existing installation to be uninstalled first.")
  else none

/-- Resolves the port against a cluster, given how to read the port of a
container. Only a fault that says that the port cannot be determined is
tolerated. -/
def choose {σ : Type} (ingressPort : String → Act σ Int) (container : String)
    (requested : Int) :
    Act σ PortChoice := do
  match ← Act.attempt (ingressPort container) with
  | .ok port => return observed requested port
  | .error (.fault f) =>
    if f.kind.isA .indeterminateState then
      Act.debug ("port introspection failed: " ++ f.message)
      return undetermined requested
    else Act.fail (.fault f)
  | .error e => Act.fail e

end PortChoice

namespace HostPort

/-- The least and the greatest port that a host can use. -/
def isUsable (n : Int) : Bool := 1 ≤ n && n ≤ 65535

/-- Reads the number of a host port: nothing if it is text or a number without a
whole value, and a failure if it is of a type that has no number. A port that is
not given is the empty text. -/
def number? (port : Option Datum) : Except Failure (Option Int) :=
  let d := port.getD (.text "")
  match d with
  | .text s => .ok (Text.readInteger? s)
  | .integer n => .ok (some n)
  | .bool b => .ok (some (if b then 1 else 0))
  | .real .notANumber => .ok none
  | .real x =>
    match x.truncate? with
    | some n => .ok (some n)
    | none =>
      .error (.plain .overflow
        (some "cannot convert float infinity to integer"))
  | _ =>
    .error (.plain .type
      (some
      ("int() argument must be a string, a bytes-like object or a real " ++
      "number, not '" ++ d.typeName ++ "'")))

/-- The first usable host port among mappings. -/
def first : List (Assoc Datum) → Except Failure (Option Int)
  | [] => .ok none
  | mapping :: rest => do
    match ← number? (mapping.get? "HostPort") with
    | some n => if isUsable n then return some n else first rest
    | none => first rest

end HostPort

end SingleNode
