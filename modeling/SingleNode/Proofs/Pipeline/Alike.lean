/-
# Two runs of the pipeline that are alike

The pipeline does not look at the state of its collaborators, and it tells no
secret.  So two runs with collaborators that are alike are alike themselves, if
the requests ask for the same port and mounts and the options that are built
from them belong together (`Pipeline.alike_run`).
-/
import SingleNode.Pipeline
import SingleNode.Proofs.Act.Alike
import SingleNode.Proofs.Act.Announcement

namespace SingleNode

open Act (Alike)

variable {σ τ : Type} {R : σ → τ → Prop} {E : Event → Event → Prop}

/-- Collaborators that do alike what they are asked, and install options that
belong together. -/
structure Collaborators.Alike (R : σ → τ → Prop) (E : Event → Event → Prop)
    (W : Installation.Options → Installation.Options → Prop)
    (c : Collaborators σ) (d : Collaborators τ) : Prop where
  version : Act.Alike R E Eq c.version d.version
  lookup : ∀ p, Act.Alike R E Eq (c.lookup p) (d.lookup p)
  ingressPort :
    ∀ name, Act.Alike R E Eq (c.ingressPort name) (d.ingressPort name)
  tryPort : ∀ port, Act.Alike R E Eq (c.tryPort port) (d.tryPort port)
  create :
    ∀ p port mounts,
    Act.Alike R E Eq (c.create p port mounts) (d.create p port mounts)
  install : ∀ o o', W o o' → Act.Alike R E Eq (c.install o) (d.install o')

variable {W : Installation.Options → Installation.Options → Prop}
  {c : Collaborators σ} {d : Collaborators τ} (h : c.Alike R E W d)
  (hE : ∀ e : Event, ¬e.NamesSecret → E e e)

section Said

include hE

theorem alike_said {e : Event} (he : e.showsAt .info = true) :
    Alike R E Eq (Act.emit e : Act σ Unit) (Act.emit e : Act τ Unit) :=
  .emit (hE e (Event.not_namesSecret_of_shows he))

/-- A record for debugging is no announcement if it begins otherwise. -/
theorem alike_debug {lead : String}
    (hl : ¬Event.secretLead.toList <+: lead.toList)
    (hl' : ¬lead.toList <+: Event.secretLead.toList) (rest : String) :
    Alike R E Eq (Act.debug (lead ++ rest) : Act σ Unit)
      (Act.debug (lead ++ rest) : Act τ Unit) :=
  .emit (hE _ (Event.not_namesSecret_of_lead hl hl' rest))

end Said

/-! ## Provisioning -/

namespace Provisioning

variable (provider : Cluster.Provider) (port : Int) (specs : List String)

include hE in
theorem alike_abort (f : Fault) :
    Alike R E Eq (abort port f : Act σ Outcome)
      (abort port f : Act τ Outcome) := by
  refine Alike.next ?_ fun _ => .pure rfl
  rw [String.append_assoc, String.append_assoc]
  exact alike_debug hE (by decide) (by decide) _

include hE in
theorem alike_choose {read : String → Act σ Int} {read' : String → Act τ Int}
    (hr : ∀ name, Alike R E Eq (read name) (read' name)) (container : String) :
    Alike R E Eq (PortChoice.choose read container port)
      (PortChoice.choose read' container port) := by
  refine (hr container).attempt.bind ?_
  intro r q hrq
  cases hrq with
  | returned hp =>
    subst hp
    exact .pure rfl
  | failed e =>
    cases e with
    | fault f =>
      refine .ite (Alike.next ?_ fun _ => .pure rfl) (.fail _)
      exact alike_debug hE (by decide) (by decide) _
    | _ => exact .fail _

include h hE

theorem alike_validate :
    Alike R E Eq (validate c provider port) (validate d provider port) := by
  refine (alike_said hE rfl).next fun _ => (alike_said hE rfl).next fun _ => ?_
  split
  case' isTrue =>
    refine Alike.next ((alike_choose hE port h.ingressPort _).map some) fun r =>
    ?_
  case' isFalse => refine Alike.next (.pure rfl) fun r => ?_
  all_goals
    dsimp only
    cases r.bind PortChoice.warning? with
    | some warning =>
      exact (alike_said hE rfl).next fun _ =>
        (alike_said hE rfl).next fun _ => .pure rfl
    | none => exact (alike_said hE rfl).next fun _ => .pure rfl

theorem alike_create :
    Alike R E Eq (create c provider port specs)
      (create d provider port specs) :=
  (alike_said hE rfl).next fun _ => (Alike.ofFault _).next fun mounts =>
    (h.tryPort port).next fun _ =>
    (alike_said hE rfl).next fun _ =>
      ((h.create provider port mounts).onFault (alike_said hE rfl)).next
        fun _ =>
        (alike_said hE rfl).next fun _ => .pure rfl

theorem alike_run :
    Alike R E Eq (run c provider port specs) (run d provider port specs) := by
  refine (alike_said hE rfl).next fun _ => (h.lookup provider).attempt.bind ?_
  intro r q hrq
  cases hrq with
  | returned hk =>
    subst hk
    refine .ite (alike_validate h hE provider port) ?_
    refine (alike_create h hE provider port specs).handle fun e => ?_
    cases e with
    | fault f => exact alike_abort hE port f
    | _ => exact .fail _
  | failed e =>
    cases e with
    | fault f => exact (alike_said hE rfl).next fun _ => alike_abort hE port f
    | _ => exact .fail _

end Provisioning

/-! ## Options -/

include hE in
/-- Building options tells which deprecated flags were used.  The options belong
together, or the reports about the credentials read the same. -/
theorem Installation.Options.alike_build {env env' : Settings.Environment}
    {r r' : Installation.Request} (port : Int)
    (hd : r.deprecated = r'.deprecated)
    (hl : (∃ k k', Registry.load r.registryArguments env = .ok k ∧
        Registry.load r'.registryArguments env' = .ok k' ∧
          W (ofRequest r port k) (ofRequest r' port k')) ∨
      ∃ i i', Registry.load r.registryArguments env = .error i ∧
        Registry.load r'.registryArguments env' = .error i' ∧
        i.summary = i'.summary) :
    Alike R E W (build env r port : Act σ Options)
      (build env' r' port : Act τ Options) := by
  rw [build, build, buildWith, buildWith, hd]
  refine Alike.next (.forEach fun _ _ => alike_said hE rfl) fun _ => ?_
  obtain ⟨k, k', hk, hk', hw⟩ | ⟨i, i', hi, hi', hs⟩ := hl
  · rw [hk, hk']
    exact .pure hw
  · rw [hi, hi']
    simp only [hs]
    exact .fail _

/-! ## The pipeline -/

namespace Pipeline

open Installation (Options Request)

variable (provider : Cluster.Provider) {env env' : Settings.Environment}
  {request request' : Request}

include h hE

theorem alike_findEngine :
    Alike (Observed.Alike R) E Eq (findEngine c) (findEngine d) :=
  (alike_said hE rfl).next fun _ =>
    (h.version.within.onFault (alike_said hE rfl)).next fun _ =>
    (Telemetry.alike_setAttribute _ _).next fun _ =>
      (Telemetry.alike_setAttribute _ _).next fun _ =>
      (Telemetry.alike_setAttribute _ _).next fun _ => alike_said hE rfl

variable (hp : request.port = request'.port)
  (hv : request.volumes = request'.volumes)
  (hb : ∀ port, Alike (Observed.Alike R) E W (Options.build env request port)
    (Options.build env' request' port))

include hp hv hb

theorem alike_stages :
    Alike (Observed.Alike R) E W (stages c provider env request)
      (stages d provider env' request') := by
  refine (alike_said hE rfl).next fun _ =>
    (alike_findEngine h hE).next fun _ => ?_
  rw [hp, hv]
  refine Alike.next (Provisioning.alike_run h hE provider _ _).within
    fun outcome =>
    Alike.next (.ofExcept (.refl _)) fun _ =>
      Alike.bind (hb _) fun o o' ho => ?_
  exact Alike.next ((h.install o o' ho).within.onFault (alike_said hE rfl))
    fun _ =>
    (alike_said hE rfl).next fun _ => .pure ho

theorem alike_run :
    Alike (Observed.Alike R) E W (run c provider env request)
      (run d provider env' request') :=
  Telemetry.alike_during (fun _ => hE _ (Event.not_namesSecret_of_shows rfl))
    operation
    (alike_stages h hE provider hp hv hb)

end Pipeline

end SingleNode
