/-
# Malformed input and the making of clusters

The input of the user is validated at two places.  The specs of the mounts are
read before a cluster is created.  The group of the credentials is looked at
when the options are built, and at that time the cluster is there: a fault of
validation is raised after a cluster was made exactly if the calls for a new
cluster all passed and the group does not hold (`invalid_after_create_iff`).  So
it is not true that nothing is made when the input is malformed
(`create_before_invalid`), although the installer at least is never called then.

The collaborators are taken not to raise faults of validation themselves, on the
states that they do not leave.
-/
import SingleNode.Proofs.Pipeline.StageOrder
import SingleNode.Rehearsal

namespace SingleNode

def Failure.isInvalid : Failure → Bool
  | .fault f => f.kind.isA .validation
  | _ => false

/-- Holds if an outcome is a fault of validation. -/
def endsInvalid {α : Type} : Except Failure α → Bool
  | .error e => e.isInvalid
  | .ok _ => false

def Entry.isCreate : Entry → Bool
  | .create .. => true
  | _ => false

/-- The action stays among the states with a property, and on those it raises no
fault of validation. -/
def Act.KeepsValid {σ α : Type} (I : σ → Prop) (x : Act σ α) : Prop :=
  ∀ s, I s → I (x.run s).state ∧ endsInvalid (x.run s).outcome = false

/-- Collaborators that raise no fault of validation on the states with a
property. -/
structure Collaborators.KeepValid {σ : Type} (I : σ → Prop)
    (c : Collaborators σ) : Prop where
  version : c.version.KeepsValid I
  lookup : ∀ p, (c.lookup p).KeepsValid I
  ingressPort : ∀ name, (c.ingressPort name).KeepsValid I
  tryPort : ∀ port, (c.tryPort port).KeepsValid I
  create : ∀ p port mounts, (c.create p port mounts).KeepsValid I
  install : ∀ o, (c.install o).KeepsValid I

namespace Pipeline

open Installation (Options Request)

variable {σ : Type} {c : Collaborators σ} {I : σ → Prop}
  {provider : Cluster.Provider}
  {env : Settings.Environment} {request : Request}

/-- Holds if no call raised a fault of validation. -/
def AllValid (log : List Entry) : Prop :=
  ∀ x ∈ log, ∀ e, x.failure? = some e → e.isInvalid = false

/-- The world is among the states with a property, and the log goes on from an
old one without a fault of validation. -/
def LogValid (I : σ → Prop) (old : List Entry) (s : Logged σ) : Prop :=
  I s.world ∧ ∃ more, s.log = old ++ more ∧ AllValid more

theorem logValid_entered {α : Type} {entry : Except Failure α → Entry}
    {x : Act σ α} {old : List Entry} (hx : x.KeepsValid I)
    (he : ∀ a, (entry a).failure? = failureOf? a) (s : Logged σ)
    (hs : LogValid I old s) :
    LogValid I old ((entered entry x).run s).state := by
  obtain ⟨hw, more, hl, hv⟩ := hs
  obtain ⟨hw', ho⟩ := hx s.world hw
  refine ⟨hw', more ++ [entry (x.run s.world).outcome], ?_, ?_⟩
  · rw [← List.append_assoc, ← hl]
    rfl
  · intro y hy e hye
    rcases List.mem_append.mp hy with hy | hy
    · exact hv y hy e hye
    · rw [List.mem_singleton.mp hy, he] at hye
      cases hr : (x.run s.world).outcome with
      | ok a => simp [hr] at hye
      | error e' =>
        obtain rfl : e' = e := by simpa [hr] using hye
        simpa [hr, endsInvalid] using ho

theorem preserves_logValid (h : c.KeepValid I) (old : List Entry) :
    c.logged.Preserves (LogValid I old) where
  version := logValid_entered h.version fun _ => rfl
  lookup p := logValid_entered (h.lookup p) fun _ => rfl
  ingressPort name := logValid_entered (h.ingressPort name) fun _ => rfl
  tryPort port := logValid_entered (h.tryPort port) fun _ => rfl
  create p port mounts := logValid_entered (h.create p port mounts) fun _ => rfl
  install o := logValid_entered (h.install o) fun _ => rfl

section Order

variable {timed : Bool} {log : List Entry} {outcome : Except Failure Options}

theorem isCreate_of_stopped
    (h : log.map Entry.call = [.version, .lookup provider.clusterName]) :
    ∀ x ∈ log, x.isCreate = false ∧ x.isInstall = false := by
  intro x hx
  have hc : x.call ∈ [Call.version, .lookup provider.clusterName] := by
    rw [← h]
    exact List.mem_map_of_mem hx
  cases x with
  | create p port mounts a => simp at hc
  | install o a => simp at hc
  | _ => exact ⟨rfl, rfl⟩

/-- A fault of validation comes from a malformed spec, and then nothing is
created, or from the group of the credentials, and then every call passed. -/
theorem InOrder.of_invalid (h : InOrder provider env request timed log outcome)
    (hv : AllValid log) (hi : endsInvalid outcome = true) :
    timed = true ∧ (∀ x ∈ log, x.isInstall = false) ∧
      ((∀ x ∈ log, x.isCreate = false) ∨
        (∀ x ∈ log, x.passes) ∧
          (Registry.merged env request).isComplete = false) := by
  have ht : timed = true := by
    cases timed with
    | true => rfl
    | false =>
      rw [h.untimed rfl] at hi
      exact absurd hi Bool.false_ne_true
  refine ⟨ht, ?_⟩
  cases ho : outcome with
  | ok o =>
    rw [ho] at hi
    exact absurd hi Bool.false_ne_true
  | error e =>
    rw [ho] at hi
    rcases h.raised e ho
      with ⟨x, hx, he, -⟩ | ⟨-, hc, -⟩ | ⟨-, hp, hm, -⟩ | ⟨ht', -⟩
    · have := hv x (List.mem_of_getLast? hx) e he
      exact absurd (this.symm.trans hi) Bool.false_ne_true
    · exact ⟨fun x hx => (isCreate_of_stopped hc x hx).2,
        .inl fun x hx => (isCreate_of_stopped hc x hx).1⟩
    · refine ⟨fun x hx => ?_, .inr ⟨hp, hm⟩⟩
      cases hxi : x.isInstall with
      | false => rfl
      | true =>
        obtain ⟨-, -, -, hm'⟩ := h.installs.mp ⟨x, hx, hxi⟩
        exact absurd (hm.symm.trans hm') Bool.false_ne_true
    · exact absurd (ht'.symm.trans ht) Bool.false_ne_true

theorem InOrder.invalid_of_create
    (h : InOrder provider env request timed log outcome) (ht : timed = true)
    (hc : ∃ x ∈ log, x.isCreate = true) (hp : ∀ x ∈ log, x.passes)
    (hm : (Registry.merged env request).isComplete = false) :
    endsInvalid outcome = true := by
  cases ho : outcome with
  | ok o =>
    obtain ⟨hl, -⟩ := (h.returned o).mp ho
    obtain ⟨-, -, -, hm'⟩ := h.installs.mp ⟨_, List.mem_of_getLast? hl, rfl⟩
    exact absurd (hm.symm.trans hm') Bool.false_ne_true
  | error e =>
    rcases h.raised e ho
      with ⟨x, hx, he, hxt⟩ | ⟨-, hs, -⟩ | ⟨-, -, -, rfl⟩ | ⟨ht', -⟩
    · exact absurd (hp x (List.mem_of_getLast? hx)) (Entry.not_passes he hxt)
    · obtain ⟨x, hx, hxc⟩ := hc
      exact absurd ((isCreate_of_stopped hs x hx).1.symm.trans hxc)
        Bool.false_ne_true
    · rfl
    · exact absurd (ht'.symm.trans ht) Bool.false_ne_true

end Order

/-- A fault of validation is raised after a cluster was created exactly if all
calls passed and the group of the credentials does not hold.  The installer is
not called then. -/
theorem invalid_after_create_iff (h : c.KeepValid I)
    (provider : Cluster.Provider) (env : Settings.Environment)
    (request : Request) (s : Observed (Logged σ)) (hs : I s.world.world) :
    let q := (run c.logged provider env request).run s
    ∃ log, q.state.world.log = s.world.log ++ log ∧
      (endsInvalid q.outcome = true → ∀ x ∈ log, x.isInstall = false) ∧
      (endsInvalid q.outcome = true ∧ (∃ x ∈ log, x.isCreate = true) ↔
        (∃ x ∈ log, x.isCreate = true) ∧ (∀ x ∈ log, x.passes) ∧
          (Registry.merged env request).isComplete = false ∧
          Telemetry.canTime s.clock = true) := by
  obtain ⟨log, hlog, ho⟩ := exists_inOrder c provider env request s
  obtain ⟨-, more, hmore, hv⟩ := run_preserves provider env request
    (preserves_logValid h s.world.log) (s := s)
      ⟨hs, [], by simp, by simp [AllValid]⟩
  obtain rfl : more = log := List.append_cancel_left (hmore.symm.trans hlog)
  refine ⟨more, hlog, fun hi => (ho.of_invalid hv hi).2.1, ?_⟩
  constructor
  · rintro ⟨hi, x, hx, hxc⟩
    obtain ⟨ht, -, hn | ⟨hp, hm⟩⟩ := ho.of_invalid hv hi
    · exact absurd ((hn x hx).symm.trans hxc) Bool.false_ne_true
    · exact ⟨⟨x, hx, hxc⟩, hp, hm, ht⟩
  · rintro ⟨hc, hp, hm, ht⟩
    exact ⟨ho.invalid_of_create ht hc hp hm, hc⟩

end Pipeline

/-! ## Rehearsals -/

namespace Rehearsal

/-- Where a script keeps the failures to raise. -/
def scripted : List (Rehearsal → Option Failure) :=
  [versionFailure, lookupFailure, ingressPortFailure, tryPortFailure,
    createFailure, installFailure]

/-- Holds if no failure of the script is a fault of validation. -/
def IsValid (r : Rehearsal) : Prop :=
  ∀ failure ∈ scripted, ∀ e, failure r = some e → e.isInvalid = false

theorem keepsValid_answer {α : Type} (call : Call)
    {failure : Rehearsal → Option Failure} (value : Rehearsal → α)
    (hf : failure ∈ scripted) :
    (answer call failure value).KeepsValid IsValid := by
  intro r hr
  simp only [answer, Act.run_bind, Act.run_emit, Act.run_get]
  cases h : failure r with
  | none => exact ⟨hr, rfl⟩
  | some e => exact ⟨hr, hr failure hf e h⟩

theorem keepsValid_bind {α β σ : Type} {I : σ → Prop} {x : Act σ α}
    {f : α → Act σ β} (hx : x.KeepsValid I) (hf : ∀ a, (f a).KeepsValid I) :
    (x >>= f).KeepsValid I := by
  intro s hs
  obtain ⟨ht, ho⟩ := hx s hs
  rw [Act.run_bind]
  rcases hr : x.run s with ⟨es, t, e | a⟩
  · rw [hr] at ht ho
    exact ⟨ht, ho⟩
  · rw [hr] at ht
    exact hf a t ht

theorem keepsValid_readPort : readPort.KeepsValid IsValid := by
  intro r hr
  simp only [readPort, Act.run_bind, Act.run_get]
  cases r.port with
  | none => exact ⟨hr, rfl⟩
  | some port => exact ⟨hr, rfl⟩

theorem isValid_afterCreate {r : Rehearsal} (port : Int) (hr : r.IsValid) :
    (afterCreate port r).IsValid := by
  intro failure hf e he
  have same : failure (afterCreate port r) = failure r := by
    simp only [scripted, List.mem_cons, List.not_mem_nil, or_false] at hf
    rcases hf with rfl | rfl | rfl | rfl | rfl | rfl <;> rfl
  exact hr failure hf e (same.symm.trans he)

theorem keepValid_collaborators : collaborators.KeepValid IsValid where
  version := keepsValid_answer _ _ (by simp [scripted])
  lookup _ := keepsValid_answer _ _ (by simp [scripted])
  ingressPort _ :=
    keepsValid_bind (keepsValid_answer _ _ (by simp [scripted])) fun _ =>
      keepsValid_readPort
  tryPort _ := keepsValid_answer _ _ (by simp [scripted])
  create _ _ _ :=
    keepsValid_bind (keepsValid_answer _ _ (by simp [scripted])) fun _ _ hr =>
      ⟨isValid_afterCreate _ hr, rfl⟩
  install _ := keepsValid_answer _ _ (by simp [scripted])

theorem isValid_default : IsValid {} := by
  intro failure hf e he
  simp only [scripted, List.mem_cons, List.not_mem_nil, or_false] at hf
  rcases hf with rfl | rfl | rfl | rfl | rfl | rfl <;>
    exact absurd he (Option.some_ne_none e).symm

end Rehearsal

namespace Pipeline

/-- A rehearsal of an installation with a user name but no password, where there
is no cluster. -/
def userOnly : Report (Observed (Logged Rehearsal)) Installation.Options :=
  (run Rehearsal.collaborators.logged ⟨.kind, "airbyte-abctl"⟩ ⟨"/root", []⟩
    { dockerUsername := "user" }).run ⟨{}, [], ⟨[], {}⟩⟩

/-- With a user name but no password, a cluster is created before that is found
out. -/
theorem create_before_invalid :
    Rehearsal.IsValid {} ∧ Rehearsal.collaborators.KeepValid Rehearsal.IsValid ∧
      endsInvalid userOnly.outcome = true ∧
      ∃ x ∈ userOnly.state.world.log, x.isCreate = true := by
  refine ⟨Rehearsal.isValid_default, Rehearsal.keepValid_collaborators, ?_, ?_⟩
  · decide +kernel
  · exact List.any_eq_true.mp (by decide +kernel)

/-- The group of those credentials does not hold, and the rest of the input
does. -/
theorem invalid_after_create_userOnly :
    Rehearsal.IsValid {} ∧
      ∃ log, userOnly.state.world.log = [] ++ log ∧
        (endsInvalid userOnly.outcome = true → ∀ x ∈ log, x.isInstall = false) ∧
        (endsInvalid userOnly.outcome = true ∧ (∃ x ∈ log, x.isCreate = true) ↔
          (∃ x ∈ log, x.isCreate = true) ∧ (∀ x ∈ log, x.passes) ∧
            (Registry.merged
              ⟨"/root", []⟩ { dockerUsername := "user" }).isComplete = false ∧
            Telemetry.canTime [] = true) :=
  ⟨Rehearsal.isValid_default,
    invalid_after_create_iff Rehearsal.keepValid_collaborators
      ⟨.kind, "airbyte-abctl"⟩
      ⟨"/root", []⟩ { dockerUsername := "user" } ⟨{}, [], ⟨[], {}⟩⟩
        Rehearsal.isValid_default⟩

end Pipeline

end SingleNode
