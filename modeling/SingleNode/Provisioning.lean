/-
# Provisioning

A cluster that is there is validated; else one is created, after the mount specs
have been read and the port has been checked. Provisioning ends in one of three
outcomes. A fault is not raised but becomes an aborted outcome that carries it;
other failures pass through.
-/
import SingleNode.Collaborators
import SingleNode.Port

namespace SingleNode.Provisioning

/-- How provisioning ended, each with the port to use. -/
inductive Outcome
  | validated (port : Int) (resolution : Option PortChoice)
  | created (port : Int) (mounts : List Mount)
  | aborted (port : Int) (reason : Fault)
  deriving DecidableEq, Repr

namespace Outcome

/-- The word for the outcome. -/
def state : Outcome → String
  | .validated .. => "validated"
  | .created .. => "created"
  | .aborted .. => "aborted"

/-- Whether there is a cluster to install into. -/
def isReady : Outcome → Bool
  | .aborted .. => false
  | _ => true

/-- The port to use; for an aborted outcome the port asked for. -/
def port : Outcome → Int
  | .validated p _ => p
  | .created p _ => p
  | .aborted p _ => p

/-- How the port was resolved, if it was compared with that of a cluster. -/
def resolution : Outcome → Option PortChoice
  | .validated _ r => r
  | _ => none

/-- The mounts that the cluster was created with. -/
def mounts : Outcome → List Mount
  | .created _ ms => ms
  | _ => []

/-- The fault that aborted provisioning. -/
def reason? : Outcome → Option Fault
  | .aborted _ f => some f
  | _ => none

/-- Fails with the fault that aborted provisioning, if one did. -/
def toExcept (o : Outcome) : Except Failure Unit :=
  match o.reason? with
  | some f => .error (.fault f)
  | none => .ok ()

end Outcome

variable {σ : Type}

/-- Ends provisioning with a fault. -/
def abort (port : Int) (f : Fault) : Act σ Outcome := do
  Act.debug ("provisioning aborted at stage " ++ Text.quoted f.stage ++
    ": " ++ f.message)
  return .aborted port f

/-- Takes over a cluster that is there. Its port is compared with the one asked
for if the provider can tell it. -/
def validate (c : Collaborators σ) (provider : Cluster.Provider) (port : Int) :
    Act σ Outcome := do
  let name := provider.clusterName
  Act.print s!"[green]✅ Existing cluster '{name}' found[/green]"
  Act.print s!"[yellow]ℹ️  Validating existing cluster '{name}'[/yellow]"
  let resolution ←
    if provider.supportsIntrospection then
      some <$> PortChoice.choose c.ingressPort provider.controlPlane port
    else pure none
  match resolution.bind PortChoice.warning? with
  | some warning => Act.print ("[yellow]⚠️  " ++ warning ++ "[/yellow]")
  | none => pure ()
  Act.print s!"[green]✅ Cluster '{name}' validation complete[/green]"
  return .validated ((resolution.map PortChoice.effective).getD port) resolution

/-- Creates a cluster. The mount specs are read and the port is checked before
anything is made. -/
def create (c : Collaborators σ) (provider : Cluster.Provider) (port : Int)
    (specs : List String) :
    Act σ Outcome := do
  let name := provider.clusterName
  Act.print
    s!"[yellow]ℹ️  No existing cluster found, cluster '{name}' will be created[/yellow]"
  let mounts ← Act.ofFault (Mount.parseAll specs)
  c.tryPort port
  Act.emit (.stage s!"Creating cluster '{name}'")
  Act.onFault (c.create provider port mounts)
    (Act.print s!"[red]Cluster '{name}' could not be created[/red]")
  Act.print s!"[green]✅ Cluster '{name}' created[/green]"
  return .created port mounts

/-- Turns a fault into an aborted outcome. -/
def settle (port : Int) (x : Act σ Outcome) : Act σ Outcome :=
  Act.handle x fun e =>
    match e with
    | .fault f => abort port f
    | _ => Act.fail e

/-- Provisions a cluster for a port and mount specs. The specs are used only if
a cluster is created. -/
def run (c : Collaborators σ) (provider : Cluster.Provider) (port : Int)
    (specs : List String) :
    Act σ Outcome := do
  let name := provider.clusterName
  Act.print
    s!"[yellow]ℹ️  Checking for existing Kubernetes cluster '{name}'[/yellow]"
  match ← Act.attempt (c.lookup provider) with
  | .error (.fault f) =>
    Act.print
      s!"[red]Unable to determine status of any existing '{name}' cluster[/red]"
    abort port f
  | .error e => Act.fail e
  | .ok cluster =>
    if cluster.found then validate c provider port
    else settle port (create c provider port specs)

end SingleNode.Provisioning
