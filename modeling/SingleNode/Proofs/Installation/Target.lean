/-
# What an installation runs on

Loading the settings gives the target of an installation, or a report of what is
wrong with them; nothing is done before it (`Installation.run_eq`).  With a
target, what there is between the start of telemetry and the closing of the
connection is one run of the pipeline.
-/
import SingleNode.Installation
import SingleNode.Proofs.Act.Deeds

namespace SingleNode.Installation

/-- Whichever settings are loaded first, it takes both. -/
theorem settings_eq_ok_iff {clusterArgs chartArgs : Option Settings.Arguments}
    {env : Settings.Environment} {cluster : Cluster.Config}
    {chart : Chart.Coordinates} :
    settings clusterArgs chartArgs env = .ok (cluster, chart) ↔
      Cluster.Config.load (clusterArgs.getD []) env = .ok cluster ∧
        Chart.Coordinates.load (chartArgs.getD []) env = .ok chart := by
  cases hk : Cluster.Config.load (clusterArgs.getD []) env <;>
    cases hc : Chart.Coordinates.load (chartArgs.getD []) env <;>
      cases clusterArgs <;> cases chartArgs <;>
        simp_all [settings, bind, Except.bind, Functor.map, Except.map,
          pure, Except.pure]

/-- The target that the settings name.  Settings that are given are loaded
before those for which there are no arguments. -/
def target (clusterArgs chartArgs : Option Settings.Arguments)
    (env : Settings.Environment) :
    Except Settings.Invalid Chart.Target :=
  do
    let givenCluster ← clusterArgs.mapM (Cluster.Config.load · env)
    let givenChart ← chartArgs.mapM (Chart.Coordinates.load · env)
    let cluster ← givenCluster.elim (Cluster.Config.load [] env) pure
    let chart ← givenChart.elim (Chart.Coordinates.load [] env) pure
    return ⟨cluster.provider, cluster, chart⟩

section Loaded

variable {σ α β : Type}

@[simp] theorem loaded_ok (a : α) : (loaded (.ok a) : Act σ α) = pure a := rfl

@[simp] theorem loaded_error (invalid : Settings.Invalid) :
    (loaded (.error invalid) : Act σ α) = Act.fail (.settings invalid) := rfl

theorem loaded_bind (x : Except Settings.Invalid α)
    (f : α → Except Settings.Invalid β) :
    (loaded (x >>= f) : Act σ β) = loaded x >>= fun a => loaded (f a) := by
  cases x with
  | error invalid => rfl
  | ok a => rfl

end Loaded

def runOn (t : Chart.Target) (env : Settings.Environment) (request : Request) :
    Act (Observed Machine) Options := do
  Act.modify (begin t.cluster.commandTimeout)
  Act.ensure (Pipeline.run (collaborators t) t.provider env request)
    Machine.disconnect.within

/-- An installation is loading the settings, and then a run on the target. -/
theorem run_eq (clusterArgs chartArgs : Option Settings.Arguments)
    (env : Settings.Environment) (request : Request) :
    run clusterArgs chartArgs env request =
      loaded (target clusterArgs chartArgs env) >>= fun t =>
        runOn t env request := by
  have ht :
      target clusterArgs chartArgs env =
        (settings clusterArgs chartArgs env >>= fun s =>
      pure ⟨s.1.provider, s.1, s.2⟩) := by
    simp only [target, settings, bind_assoc, pure_bind]
  rw [run, ht, loaded_bind, bind_assoc]
  rfl

end SingleNode.Installation
