/-
# The connection to the container engine

The first request makes the connection, if the engine lets it, and from then on
it stays as it is until it is closed.  So whether there is one at the end of an
installation is known beforehand (`Pipeline.linked_run`): asking for the version
comes first, and nothing after it changes that.
-/
import SingleNode.Proofs.Machine.Lasting
import SingleNode.Proofs.Machine.Requests
import SingleNode.Proofs.Pipeline.Course

namespace SingleNode

namespace Machine

/-- The engine is the given one, and there is a connection to it if it does not
refuse them. -/
def Linked (engine : Engine) (m : Machine) : Prop :=
  m.engine = engine ∧ m.connection.connected = engine.connectFailure.isNone

theorem state_version (m : Machine) :
    (version.run m).state = (connect.run m).state := by
  rw [run_version, run_connect_eq]

theorem linked_version {m : Machine} (h : m.connection.connected = false) :
    Linked m.engine (version.run m).state := by
  rw [state_version, state_connect, h]
  exact ⟨rfl, Bool.false_or _⟩

theorem lasting_linked (engine : Engine) :
    LastingThroughout (Linked engine) where
  tree _ _ h := h
  rules _ _ h := h
  connect m h := by
    obtain ⟨rfl, hc⟩ := h
    rw [state_connect]
    exact ⟨rfl, by rw [hc, Bool.or_self]⟩

end Machine

theorem Pipeline.Course.preserves {σ : Type} {I : σ → Prop}
    {c : Collaborators σ} {provider : Cluster.Provider}
    {env : Settings.Environment} {request : Installation.Request} {s : σ}
    {r : Report σ Installation.Options} (hc : c.Preserves I)
    (h : Course c provider env request s r) (hs : I (c.version.run s).state) :
    I r.state := by
  rcases h.parts (Act.tracing_keeps I) (fun _ _ _ => id) hc.traces with
    ⟨e, hv⟩ | ⟨d, t, v, rest, hv, -, hrest⟩
  · have ht : (c.version.run s).state = r.state := congrArg Report.state hv
    exact ht ▸ hs
  · have ht : (c.version.run s).state = t := congrArg Report.state hv
    exact hrest (ht ▸ hs)

/-- At the end of the stages there is a connection if the engine does not refuse
them. -/
theorem Pipeline.linked_run (t : Chart.Target) (provider : Cluster.Provider)
    (env : Settings.Environment) (request : Installation.Request)
    {s : Observed Machine} (hs : s.world.connection.connected = false) :
    Machine.Linked s.world.engine
      ((run (Installation.collaborators t) provider env request).run
        s).state.world := by
  obtain ⟨r, hc, -⟩ :=
    run_course (Installation.collaborators t) provider env request s
  exact hc.preserves ((Machine.lasting_linked _).preserves t)
    (Machine.linked_version hs)

end SingleNode
