/-
# Installing on a machine

One installation with the collaborators of a machine: the container engine, the
cluster manager and the chart installer. The settings are loaded first. The
connection to the container engine belongs to the run and is closed at its end,
whatever that is.
-/
import SingleNode.Chart.Installation
import SingleNode.Cluster.Manager
import SingleNode.Pipeline

namespace SingleNode.Installation

def collaborators (t : Chart.Target) : Collaborators Machine where
  version := Machine.version
  lookup := Cluster.lookup t.cluster
  ingressPort := Machine.ingressPort
  tryPort := Machine.tryPort
  create := Cluster.create t.cluster
  install := t.install

/-- Returns loaded settings, or fails because they do not hold. -/
def loaded {σ α : Type} : Except Settings.Invalid α → Act σ α
  | .ok a => pure a
  | .error invalid => Act.fail (.settings invalid)

/-- Starts over with a new telemetry and a connection that is still to be
made. -/
def begin (timeout : Int) (s : Observed Machine) : Observed Machine :=
  { s with telemetry := {}, world.connection := { timeout } }

def runWith (cluster : Cluster.Config) (chart : Chart.Coordinates)
    (env : Settings.Environment) (request : Request) :
    Act (Observed Machine) Options := do
  Act.modify (begin cluster.commandTimeout)
  let target : Chart.Target := ⟨cluster.provider, cluster, chart⟩
  Act.ensure (Pipeline.run (collaborators target) cluster.provider env request)
    Machine.disconnect.within

/-- Loads settings from arguments and the environment. Those that are given are
loaded before those for which there are no arguments. -/
def settings (clusterArgs chartArgs : Option Settings.Arguments)
    (env : Settings.Environment) :
    Except Settings.Invalid (Cluster.Config × Chart.Coordinates) := do
  let givenCluster ← clusterArgs.mapM (Cluster.Config.load · env)
  let givenChart ← chartArgs.mapM (Chart.Coordinates.load · env)
  let cluster ← givenCluster.elim (Cluster.Config.load [] env) pure
  let chart ← givenChart.elim (Chart.Coordinates.load [] env) pure
  return (cluster, chart)

/-- Runs an installation with settings from arguments and the environment. -/
def run (clusterArgs chartArgs : Option Settings.Arguments)
    (env : Settings.Environment) (request : Request) :
    Act (Observed Machine) Options := do
  let (cluster, chart) ← loaded (settings clusterArgs chartArgs env)
  runWith cluster chart env request

end SingleNode.Installation
