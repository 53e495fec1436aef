/-
# What is left behind on a machine

What a machine does is put together from a few things: requests to the container
engine over a connection, files and directories that are made, commands, and
messages.  A relation that holds of each of these (`Traced`, `TracedThroughout`)
holds of everything that an installation asks of a machine
(`TracedThroughout.collaborators`).
-/
import SingleNode.Installation
import SingleNode.Proofs.Chart.Plan
import SingleNode.Proofs.Machine.Engine
import SingleNode.Proofs.Machine.Ports
import SingleNode.Proofs.Pipeline.Traces

namespace SingleNode

namespace Event

/-- Holds for what is asked of the container engine over a connection. -/
def isEngineRequest : Event → Bool
  | .engineVersion | .inspectContainer _ | .inspectVolume
      _ | .runContainer .. => true
  | _ => false

/-- Holds for whatever passes between the workflow and the container engine. -/
def isEngine : Event → Bool
  | .connect _ | .disconnect => true
  | e => e.isEngineRequest

end Event

namespace Machine

open Act (Tracing Traces traces_emit traces_modify)

/-- A relation that holds of requests to the engine and of files and directories
that are made. -/
structure Traced (P : Machine → List Event → Machine → Prop) :
    Prop extends Tracing P where
  request : ∀ e : Event, e.isEngineRequest = true →
    Traces P (connect >>= fun _ => Act.emit e : Act Machine Unit)
  tree : ∀ m tree, P m [] { m with tree := tree }
  told : ∀ m e, e.isMessage = true → P m [e] m

/-- A relation that also holds of commands and of all other events. -/
structure TracedThroughout (P : Machine → List Event → Machine → Prop) :
    Prop extends Traced P where
  rules : ∀ m rules, P m [] { m with rules := rules }
  event : ∀ m e, e.isEngine = false → P m [e] m

namespace Traced

variable {P : Machine → List Event → Machine → Prop} (h : Traced P)
include h

theorem emit {e : Event} (he : e.isMessage = true) :
    Traces P (Act.emit e : Act Machine Unit) :=
  traces_emit fun m => h.told m e he

theorem onConnection {α : Type} {e : Event} (he : e.isEngineRequest = true)
    {x : Act Machine α} (hx : Traces P x) :
    Traces P (connect >>= fun _ => Act.emit e >>= fun _ => x) := by
  have hr := h.bind (h.request e he) fun _ => hx
  rwa [bind_assoc] at hr

theorem failIf (e : Option Failure) : Traces P (failIf e) := by
  cases e with
  | none => exact h.pure ()
  | some e => exact h.fail e

theorem isFile (p : HostPath) : Traces P (isFile p) := by
  refine Tracing.ite (h.pure false) (h.bind h.get fun m => ?_)
  cases m.tree.isFile p with
  | ok b => exact h.pure b
  | error e => exact h.fail _

theorem ensureDirectories (p : HostPath) : Traces P (ensureDirectories p) := by
  refine h.bind (Tracing.ite (h.fail _) (h.pure ())) fun _ =>
    h.bind h.get fun m => ?_
  rcases m.tree.ensureDirectories p with ⟨tree, _ | ⟨e, place⟩⟩
  · exact h.bind (traces_modify fun m => h.tree m tree) fun _ => h.pure ()
  · exact h.bind (traces_modify fun m => h.tree m tree) fun _ => h.fail _

theorem version : Traces P version := by
  refine h.bind h.get fun m => h.bind (h.handle ?_ fun e => ?_) fun _ =>
    h.pure _
  · exact h.onConnection rfl (h.ofExcept _)
  · cases e with
    | engine error message => exact Tracing.ite (h.fail _) (h.fail _)
    | _ => exact h.fail _

theorem ingressPort (container : String) :
    Traces P (ingressPort container) := by
  refine h.bind h.get fun m => h.bind (h.handle ?_ fun e => ?_) fun ports =>
    h.bind (h.ofExcept _) fun port => ?_
  · exact h.onConnection rfl (h.ofExcept _)
  · cases e with
    | fault f => exact Tracing.ite (h.fail _) (h.fail _)
    | _ => exact h.fail _
  · cases port with
    | some p => exact h.pure p
    | none => exact h.fail _

theorem findVolume (volume : String) : Traces P (findVolume volume) := by
  refine h.bind h.get fun m => h.handle ?_ fun e => ?_
  · exact h.onConnection rfl (h.bind (h.failIf _) fun _ =>
      Tracing.ite (h.fail _) (h.pure ()))
  · cases e with
    | engine error message => exact Tracing.ite (h.fail _) (h.fail _)
    | _ => exact h.fail _

theorem extractVolume (volume : String) (dest : HostPath) :
    Traces P (extractVolume volume dest) := by
  refine h.bind (h.findVolume volume) fun _ =>
    h.bind (h.ensureDirectories dest) fun _ =>
    h.bind (h.emit rfl) fun _ => h.bind h.get fun m =>
      h.handle ?_ fun _ => h.fail _
  exact h.onConnection rfl (h.failIf _)

theorem migrateIfAsked (t : Chart.Target) (o : Installation.Options) :
    Traces P (t.migrateIfAsked o) := by
  refine Tracing.ite ?_ (h.pure ())
  exact h.bind (h.emit rfl) fun _ =>
    h.bind (h.extractVolume _ _) fun _ => h.emit rfl

end Traced

namespace TracedThroughout

variable {P : Machine → List Event → Machine → Prop} (h : TracedThroughout P)
include h

theorem tryPort (port : Int) : Traces P (tryPort port) := by
  intro m
  rw [run_tryPort]
  exact h.event m _ rfl

theorem execute (c : Command) : Traces P (execute c) := by
  refine h.bind h.get fun m => Tracing.ite ?_ ?_
  · exact h.bind (traces_emit fun m => h.event m _ rfl) fun _ => h.pure _
  refine h.bind (traces_emit fun m => h.event m _ rfl) fun _ => ?_
  rcases Rule.answer c.words m.rules with ⟨reply, rules⟩
  refine h.bind (traces_modify fun m => h.rules m rules) fun _ => ?_
  cases reply with
  | succeeds stdout =>
    show Traces P (Except.ok <$> Act.ofExcept stdout.read)
    rw [map_eq_pure_bind]
    exact h.bind (h.ofExcept _) fun _ => h.pure _
  | interrupted => exact h.fail _
  | _ => exact h.pure _

theorem command (kind : FaultClass) (c : Command) :
    Traces P (command kind c) := by
  refine h.bind (h.emit rfl) fun _ => h.bind (h.execute c) fun r => ?_
  cases r with
  | ok stdout => exact h.pure stdout
  | error ending => exact h.fail _

theorem lookup (cfg : Cluster.Config) (provider : Cluster.Provider) :
    Traces P (Cluster.lookup cfg provider) :=
  h.bind (h.command _ _) fun _ => h.bind (h.emit rfl) fun _ => h.pure _

theorem create (cfg : Cluster.Config) (provider : Cluster.Provider) (port : Int)
    (mounts : List Mount) :
    Traces P (Cluster.create cfg provider port mounts) := by
  have made {f : Failure → Act Machine Unit} (hf : ∀ e, Traces P (f e)) :
      Traces P
        (Act.handle (Machine.ensureDirectories cfg.dataDir) f >>= fun _ =>
        Machine.command .resourceCreation
          (Cluster.createCommand cfg provider port mounts) >>=
          fun _ => pure ()) :=
    h.bind (h.handle (h.ensureDirectories _) hf) fun _ =>
      h.bind (h.command _ _) fun _ => h.pure ()
  rw [Cluster.create]
  cases mounts.find? Mount.isIncomplete with
  | some m =>
    exact h.bind (h.fail _) fun _ => made fun e => by cases e <;> exact h.fail _
  | none => exact made fun e => by cases e <;> exact h.fail _

/-! ## Installing the charts -/

theorem step (c : Command) : Traces P (Chart.Target.step c) :=
  h.bind (h.command _ c) fun _ => h.pure ()

theorem requireFiles (o : Installation.Options) :
    Traces P (Chart.Target.requireFiles o) :=
  h.forEach fun _ _ => h.bind (h.isFile _) fun _ =>
    Tracing.ite (h.fail _) (h.pure ())

theorem provideNamespace (t : Chart.Target) : Traces P t.provideNamespace :=
  h.handle (h.step _) fun _ => Tracing.ite (h.emit rfl) (h.fail _)

theorem storeIfGiven (t : Chart.Target) (o : Installation.Options) :
    Traces P (t.storeIfGiven o) := by
  refine Tracing.ite ?_ (h.pure ())
  exact h.bind (h.command _ _) fun _ => h.bind (h.step _) fun _ => h.emit rfl

theorem releases (t : Chart.Target) (o : Installation.Options) :
    Traces P (t.releases o) := by
  have files : Traces P (Act.forEach o.secretFiles t.applySecretFile) :=
    h.forEach fun _ _ => h.bind (h.step _) fun _ => h.emit rfl
  have page : Traces P (if !o.noBrowser then browse o.url else pure ()) :=
    Tracing.ite (traces_emit fun m => h.event m _ rfl) (h.pure ())
  exact h.bind files fun _ => h.bind (h.emit rfl) fun _ =>
    h.bind (h.step _) fun _ =>
    h.bind (h.emit rfl) fun _ => h.bind (h.emit rfl) fun _ =>
      h.bind (h.step _) fun _ =>
      h.bind (h.emit rfl) fun _ => h.bind (h.step _) fun _ =>
        h.bind (h.emit rfl) fun _ => page

theorem install (t : Chart.Target) (o : Installation.Options) :
    Traces P (t.install o) := by
  have charts : Traces P (t.charts o) :=
    h.bind (h.emit rfl) fun _ => h.bind (h.forEach fun _ _ => h.step _) fun _ =>
      h.bind (h.provideNamespace t) fun _ =>
        h.bind (h.storeIfGiven t o) fun _ => h.releases t o
  rw [t.install_eq]
  exact h.bind (h.requireFiles o) fun _ =>
    h.bind (h.migrateIfAsked t o) fun _ => charts

/-- What holds of all that a machine does, the collaborators of a machine leave
behind. -/
theorem collaborators (t : Chart.Target) :
    (Installation.collaborators t).Traces P where
  version := h.version
  lookup := h.lookup t.cluster
  ingressPort := h.ingressPort
  tryPort := h.tryPort
  create := h.create t.cluster
  install := h.install t

end TracedThroughout

/-! ## The kinds of events -/

theorem traced_only {p : Event → Prop}
    (hconnect : ∀ timeout, p (.connect timeout))
    (hrequest : ∀ e : Event, e.isEngineRequest = true → p e)
    (hmessage : ∀ e : Event, e.isMessage = true → p e) :
    Traced fun _ es _ => ∀ e ∈ es, p e where
  toTracing := Act.tracing_only p
  request e he := by
    refine (Act.tracing_only p).bind ?_ fun _ => traces_emit fun _ => ?_
    · intro m
      rcases run_connect m with ⟨-, hr⟩ | ⟨-, -, hr⟩ | ⟨-, -, _, hr⟩
      · rw [hr]
        exact nofun
      · rw [hr]
        exact List.forall_mem_singleton.mpr (hconnect _)
      · rw [hr]
        exact List.forall_mem_singleton.mpr (hconnect _)
    · exact List.forall_mem_singleton.mpr (hrequest e he)
  tree _ _ := nofun
  told _ e he := List.forall_mem_singleton.mpr (hmessage e he)

theorem traced_requests : Traced fun _ es _ => ∀ e ∈ es, e.IsRequest := by
  refine traced_only (fun _ => ⟨rfl, rfl⟩) ?_ ?_
  · intro e he
    cases e with
    | engineVersion | inspectContainer | inspectVolume | runContainer =>
      exact ⟨rfl, rfl⟩
    | _ => exact nomatch he
  · intro e he
    cases e with
    | print | panel | log => exact ⟨rfl, rfl⟩
    | _ => exact nomatch he

end Machine

end SingleNode
