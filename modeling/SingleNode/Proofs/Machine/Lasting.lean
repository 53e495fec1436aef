/-
# What lasts on a machine

Requests to the engine, files and directories change the connection and the file
tree of a machine and nothing else; commands change the rules.  A property that
survives these changes (`Lasting`) survives everything that an installation
does.
-/
import SingleNode.Proofs.Machine.Traced
import SingleNode.Proofs.Pipeline.Seen

namespace SingleNode

theorem Collaborators.Preserves.traces {σ : Type} {I : σ → Prop}
    {c : Collaborators σ} (h : c.Preserves I) :
    c.Traces fun s _ t => I s → I t :=
  ⟨h.version, h.lookup, h.ingressPort, h.tryPort, h.create, h.install⟩

namespace Machine

/-- A property of machines that lasts when files are made and when the
connection is. -/
structure Lasting (I : Machine → Prop) : Prop where
  tree : ∀ m tree, I m → I { m with tree := tree }
  connect : connect.Keeps I

/-- A property of machines that lasts when commands are run, too. -/
structure LastingThroughout (I : Machine → Prop) : Prop extends Lasting I where
  rules : ∀ m rules, I m → I { m with rules := rules }

theorem Lasting.traced {I : Machine → Prop} (h : Lasting I) :
    Traced fun m _ m' => I m → I m' where
  toTracing := Act.tracing_keeps I
  request _ _ := (Act.tracing_keeps I).bind h.connect fun _ _ => id
  tree := h.tree
  told _ _ _ := id

theorem LastingThroughout.traced {I : Machine → Prop}
    (h : LastingThroughout I) :
    TracedThroughout fun m _ m' => I m → I m' where
  toTraced := h.toLasting.traced
  rules := h.rules
  event _ _ _ := id

/-- What lasts throughout, the collaborators of a machine preserve. -/
theorem LastingThroughout.preserves {I : Machine → Prop}
    (h : LastingThroughout I) (t : Chart.Target) :
    (Installation.collaborators t).Preserves I where
  version := h.traced.version
  lookup := h.traced.lookup t.cluster
  ingressPort := h.traced.ingressPort
  tryPort := h.traced.tryPort
  create := h.traced.create t.cluster
  install := h.traced.install t

end Machine

end SingleNode
