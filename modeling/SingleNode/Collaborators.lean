/-
# Collaborators

What the workflow needs from the outside: a container engine, a cluster manager,
a check of ports on the host and an installer. The workflow is written against
this record only, so it runs the same way on a real machine and on a rehearsal.
-/
import SingleNode.Cluster.Provider
import SingleNode.Installation.Options

namespace SingleNode

/-- The version of the container engine, as the engine gives it. -/
structure EngineVersion where
  version : Datum
  arch : Datum
  platform : Datum

/-- The actions of the outside world on a state. -/
structure Collaborators (σ : Type) where
  version : Act σ EngineVersion
  lookup : Cluster.Provider → Act σ Cluster.Handle
  ingressPort : String → Act σ Int
  tryPort : Int → Act σ Unit
  create : Cluster.Provider → Int → List Mount → Act σ Unit
  install : Installation.Options → Act σ Unit

end SingleNode
