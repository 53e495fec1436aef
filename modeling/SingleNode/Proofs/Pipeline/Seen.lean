/-
# The pipeline seen through a part of the state

The pipeline does not look at the state of its collaborators.  If the
collaborators are seen through a function of their state, so is the run: same
events, same outcome, same telemetry (`Pipeline.seen_run`).
-/
import SingleNode.Proofs.Act.Seen
import SingleNode.Proofs.Pipeline.Alike

namespace SingleNode

/-- Collaborators that look like others if their state is seen through a
function. -/
structure Collaborators.SeenAs {τ σ : Type} (f : τ → σ) (c : Collaborators τ)
    (d : Collaborators σ) :
    Prop where
  version : Seen f c.version d.version
  lookup : ∀ p, Seen f (c.lookup p) (d.lookup p)
  ingressPort : ∀ name, Seen f (c.ingressPort name) (d.ingressPort name)
  tryPort : ∀ port, Seen f (c.tryPort port) (d.tryPort port)
  create :
    ∀ p port mounts, Seen f (c.create p port mounts) (d.create p port mounts)
  install : ∀ o, Seen f (c.install o) (d.install o)

variable {τ σ : Type} {f : τ → σ} {c : Collaborators τ} {d : Collaborators σ}

theorem Collaborators.SeenAs.alike (h : c.SeenAs f d) :
    c.Alike (fun s t => f s = t) Eq Eq d where
  version := seen_iff_alike.mp h.version
  lookup p := seen_iff_alike.mp (h.lookup p)
  ingressPort name := seen_iff_alike.mp (h.ingressPort name)
  tryPort port := seen_iff_alike.mp (h.tryPort port)
  create p port mounts := seen_iff_alike.mp (h.create p port mounts)
  install o := by
    rintro _ rfl
    exact seen_iff_alike.mp (h.install o)

theorem Provisioning.seen_run (provider : Cluster.Provider) (port : Int)
    (specs : List String) (h : c.SeenAs f d) :
    Seen f (run c provider port specs) (run d provider port specs) :=
  seen_iff_alike.mpr (alike_run h.alike (fun _ _ => rfl) provider port specs)

/-- The pipeline does not look at the state of its collaborators. -/
theorem Pipeline.seen_run (provider : Cluster.Provider)
    (env : Settings.Environment) (request : Installation.Request)
    (h : c.SeenAs f d) :
    Seen (Observed.through f) (run c provider env request)
      (run d provider env request) := by
  have hE : ∀ e : Event, ¬e.NamesSecret → e = e := fun _ _ => rfl
  refine seen_through_iff_alike.mpr
    (alike_run h.alike hE provider rfl rfl fun port => ?_)
  refine Installation.Options.alike_build hE port rfl ?_
  cases Registry.load request.registryArguments env with
  | ok k => exact .inl ⟨k, k, rfl, rfl, rfl⟩
  | error i => exact .inr ⟨i, i, rfl, rfl, rfl⟩

/-! ## Invariants

Collaborators that do not leave the states with a property can be given just
those states. Seen as states without the property they are the same, so the
pipeline does not leave them either. -/

variable {α : Type} {I : σ → Prop}

/-- An action on the states with a property, which it does not leave. -/
def Act.restrict (x : Act σ α) (h : ∀ s, I s → I (x.run s).state) :
    Act { s // I s } α := fun s =>
  ⟨(x.run s.val).events, ⟨(x.run s.val).state, h s.val s.property⟩,
    (x.run s.val).outcome⟩

/-- Holds for collaborators that do not leave the states with a property. -/
structure Collaborators.Preserves (I : σ → Prop)
    (d : Collaborators σ) : Prop where
  version : ∀ s, I s → I (d.version.run s).state
  lookup : ∀ p s, I s → I ((d.lookup p).run s).state
  ingressPort : ∀ name s, I s → I ((d.ingressPort name).run s).state
  tryPort : ∀ port s, I s → I ((d.tryPort port).run s).state
  create : ∀ p port mounts s, I s → I ((d.create p port mounts).run s).state
  install : ∀ o s, I s → I ((d.install o).run s).state

/-- Collaborators on the states that they do not leave. -/
def Collaborators.restrict (d : Collaborators σ) (h : d.Preserves I) :
    Collaborators { s // I s } where
  version := d.version.restrict h.version
  lookup p := (d.lookup p).restrict (h.lookup p)
  ingressPort name := (d.ingressPort name).restrict (h.ingressPort name)
  tryPort port := (d.tryPort port).restrict (h.tryPort port)
  create p port mounts :=
    (d.create p port mounts).restrict (h.create p port mounts)
  install o := (d.install o).restrict (h.install o)

theorem Collaborators.restrict_seenAs (h : d.Preserves I) :
    (d.restrict h).SeenAs Subtype.val d where
  version _ := rfl
  lookup _ _ := rfl
  ingressPort _ _ := rfl
  tryPort _ _ := rfl
  create _ _ _ _ := rfl
  install _ _ := rfl

/-- What the collaborators preserve the pipeline preserves. -/
theorem Pipeline.run_preserves (provider : Cluster.Provider)
    (env : Settings.Environment) (request : Installation.Request)
    (h : d.Preserves I) {s : Observed σ} (hs : I s.world) :
    I ((Pipeline.run d provider env request).run s).state.world := by
  have hr :=
    Pipeline.seen_run provider env request (Collaborators.restrict_seenAs h)
    ⟨s.telemetry, s.clock, ⟨s.world, hs⟩⟩
  have hw :
      ((Pipeline.run d provider env request).run s).state.world =
        Subtype.val _ :=
    congrArg (fun r => r.state.world) hr
  rw [hw]
  exact Subtype.property _

end SingleNode
