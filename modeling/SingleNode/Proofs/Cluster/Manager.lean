/-
# What the cluster manager does to a machine

Looking for a cluster is one command that asks for a listing (`lookupCommand`);
whether the cluster is found is read off the answer.  Creating one is, for
mounts that are complete and a data directory that can be made, one command with
the manifest (`createCommand`); a creation that succeeds has run it, and nothing
else was done.  `Making` lists the three ways that a creation can go.

Nodes are selected from a document by the names on the way to them
(`Node.select`), lists being passed through.
-/
import SingleNode.Cluster.Manager
import SingleNode.Proofs.Machine.Command
import SingleNode.Proofs.Machine.Engine
import SingleNode.Proofs.Machine.FileTree

namespace SingleNode

namespace Yaml.Node

/-- The named parts of a node; a list has those of its items. -/
def parts : Node → List (String × Node)
  | .mapping fields => fields
  | .sequence items => items.flatMap fun
    | .mapping fields => fields
    | _ => []
  | _ => []

/-- The nodes that are reached from a node by names. -/
def select (node : Node) : List String → List Node
  | [] => [node]
  | name :: path =>
    (node.parts.filter fun part => part.1 = name).flatMap fun part =>
    select part.2 path

end Yaml.Node

def Event.createsCluster : Event → Bool
  | .run words _ _ _ => ["kind", "create", "cluster"].isPrefixOf words
  | _ => false

theorem Event.createsCluster_of_program {e : Event}
    (h : e.program? ≠ some "kind") :
    e.createsCluster = false := by
  cases e with
  | run words timeout input config =>
    cases words with
    | nil => rfl
    | cons word rest =>
      have hw : ("kind" == word) = false := by
        rw [beq_eq_false_iff_ne]
        rintro rfl
        exact h rfl
      rw [createsCluster, List.isPrefixOf, hw, Bool.false_and]
  | _ => rfl

theorem Event.isMessage_of_createsCluster {e : Event}
    (h : e.createsCluster = true) :
    e.isMessage = false := by
  cases e with
  | run => rfl
  | _ => exact nomatch h

namespace Cluster

variable (cfg : Config) (provider : Provider)

def lookupCommand : Machine.Command where
  program := "kind"
  args := ["get", "clusters"]
  timeout := cfg.commandTimeout

theorem run_silent_lookup (m : Machine) :
    (lookup cfg provider).silent.run m =
      ⟨[m.attempt (lookupCommand cfg)], m.after (lookupCommand cfg),
        (m.answer .indeterminateState (lookupCommand cfg)).map fun listing =>
          ⟨provider.clusterName,
            (listedNames listing).contains provider.clusterName,
            provider⟩⟩ := by
  have hl : (lookup cfg provider).silent =
      (Machine.command .indeterminateState (lookupCommand cfg)).silent >>=
        fun listing => pure
        ⟨provider.clusterName,
          (listedNames listing).contains provider.clusterName, provider⟩ := by
    simp only [lookup, lookupCommand, Act.silent_bind, Act.silent_debug,
      pure_bind, Act.silent_pure]
  rw [hl, Act.run_bind, Machine.run_silent_command]
  cases m.answer .indeterminateState (lookupCommand cfg) <;> rfl

def dataDirFailure : Failure → Failure
  | .file problem path =>
    .because .resourceCreation
      ("unable to create data directory " ++ cfg.dataDir.toString ++ ": " ++
        (Failure.file problem path).message) (.file problem)
  | e => e

def makeDataDir : Act Machine Unit :=
  Act.handle (Machine.ensureDirectories cfg.dataDir) fun e =>
    Act.fail (dataDirFailure cfg e)

theorem create_of_complete {mounts : List Mount}
    (h : mounts.find? Mount.isIncomplete = none) (port : Int) :
    create cfg provider port mounts = makeDataDir cfg >>= fun _ =>
      Machine.command .resourceCreation
        (createCommand cfg provider port mounts) >>= fun _ => pure () := by
  rw [create, h]
  refine congrArg (· >>= _) (congrArg (Act.handle _) (funext fun e => ?_))
  cases e <;> rfl

theorem run_silent_makeDataDir (m : Machine) :
    ∃ tree r, m.tree.Laid cfg.dataDir tree ∧
      (makeDataDir cfg).silent.run m = ⟨[], { m with tree }, r⟩ := by
  obtain ⟨hno, tree, hlaid, hstate⟩ :=
    Machine.laid_run_ensureDirectories cfg.dataDir m
  have hmade :=
    Act.run_handle_fail (Machine.ensureDirectories cfg.dataDir)
    (dataDirFailure cfg) m
    fun _ => rfl
  rw [hno, hstate] at hmade
  exact ⟨tree, _, hlaid, by rw [Act.run_silent, makeDataDir, hmade]; rfl⟩

/-- What can happen when a cluster is created on the machine `m`: a mount is not
complete and nothing is done, or the data directory cannot be made, or the
command comes after it. -/
inductive Making (port : Int) (mounts : List Mount) (m : Machine) :
    Report Machine Unit → Prop
  | refused {e : Failure} :
      (∃ mount ∈ mounts, mount.isIncomplete = true) →
      Making port mounts m ⟨[], m, .error e⟩
  | unmade {tree : FileTree} {e : Failure} :
      (∀ mount ∈ mounts, mount.isIncomplete = false) →
        m.tree.Laid cfg.dataDir tree →
      Making port mounts m ⟨[], { m with tree }, .error e⟩
  | asked {n : Machine} {tree : FileTree} :
      (∀ mount ∈ mounts, mount.isIncomplete = false) →
        m.tree.Laid cfg.dataDir tree →
      n = { m with tree } →
      Making port mounts m
        ⟨[n.attempt (createCommand cfg provider port mounts)],
          n.after (createCommand cfg provider port mounts),
          (n.answer .resourceCreation
            (createCommand cfg provider port mounts)).map fun _ => ()⟩

theorem run_silent_create (port : Int) (mounts : List Mount) (m : Machine) :
    Making cfg provider port mounts m
      ((create cfg provider port mounts).silent.run m) := by
  cases hf : mounts.find? Mount.isIncomplete with
  | some mount =>
    rw [create, hf]
    exact .refused ⟨mount, List.mem_of_find?_eq_some hf, List.find?_some hf⟩
  | none =>
    have hcomplete : ∀ mount ∈ mounts, mount.isIncomplete = false := by
      simpa using List.find?_eq_none.mp hf
    obtain ⟨tree, r, hlaid, hmade⟩ := run_silent_makeDataDir cfg m
    rw [create_of_complete cfg provider hf, Act.silent_bind, Act.silent_bind]
    cases r with
    | error e =>
      rw [Act.run_bind_error hmade]
      exact .unmade hcomplete hlaid
    | ok u =>
      rw [Act.run_bind_ok hmade, Act.run_bind, Machine.run_silent_command]
      have h : Making cfg provider port mounts m _ := .asked hcomplete hlaid rfl
      generalize Machine.answer .resourceCreation { m with tree } _ =
        answer at h ⊢
      cases answer with
      | error e => exact h
      | ok text => exact h

variable {cfg provider} in
/-- A creation lays the data directory if the mounts are complete, and else
nothing. -/
theorem Making.tree {port : Int} {mounts : List Mount} {m : Machine}
    {r : Report Machine Unit} (h : Making cfg provider port mounts m r) :
    r.state.tree = m.tree ∨
      (∀ mount ∈ mounts, mount.isIncomplete = false) ∧
        m.tree.Laid cfg.dataDir r.state.tree := by
  cases h with
  | refused => exact .inl rfl
  | unmade hc hl => exact .inr ⟨hc, hl⟩
  | asked hc hl hn =>
    rw [Machine.after_tree, hn]
    exact .inr ⟨hc, hl⟩

variable {cfg provider} in
theorem Making.complete_of_ok {port : Int} {mounts : List Mount} {m : Machine}
    {r : Report Machine Unit} {u : Unit}
    (h : Making cfg provider port mounts m r) (hr : r.outcome = .ok u) :
    ∀ mount ∈ mounts, mount.isIncomplete = false := by
  cases h with
  | refused => exact nomatch hr
  | unmade => exact nomatch hr
  | asked hc => exact hc

/-- A creation that succeeds has made the data directory, and then its command
has been answered. -/
theorem of_create_eq_ok {port : Int} {mounts : List Mount} {m m' : Machine}
    {d : List Event} {u : Unit}
    (h : (create cfg provider port mounts).silent.run m = ⟨d, m', .ok u⟩) :
    let c := createCommand cfg provider port mounts
    ∃ tree n text, n = { m with tree } ∧
      n.answer .resourceCreation c = .ok text ∧
      d = [n.attempt c] ∧ m' = n.after c := by
  intro c
  have hm := run_silent_create cfg provider port mounts m
  generalize (create cfg provider port mounts).silent.run m = r at h hm
  cases hm with
  | refused => exact nomatch congrArg Report.outcome h
  | unmade => exact nomatch congrArg Report.outcome h
  | @asked n tree _ _ hn =>
    obtain ⟨rfl, rfl, ho⟩ := Report.mk.inj h
    cases ha : n.answer .resourceCreation c with
    | error e =>
      rw [ha] at ho
      exact nomatch ho
    | ok text => exact ⟨tree, n, text, hn, ha, rfl, rfl⟩

theorem events_of_create {port : Int} {mounts : List Mount} {m m' : Machine}
    {d : List Event} {u : Unit}
    (h : (create cfg provider port mounts).silent.run m = ⟨d, m', .ok u⟩) :
    d = [(createCommand cfg provider port mounts).ran] := by
  obtain ⟨_, n, text, -, ha, rfl, -⟩ := of_create_eq_ok cfg provider h
  rw [Machine.attempt_of_answer ha]

theorem select_hostPort (port : Int) (mounts : List Mount)
    (dataDir : HostPath) :
    (Yaml.Node.mapping (Manifest.fields port mounts dataDir)).select
      ["nodes", "extraPortMappings", "hostPort"] = [.integer port] := by
  simp [Manifest.fields, Yaml.Node.select, Yaml.Node.parts]

end Cluster

end SingleNode
