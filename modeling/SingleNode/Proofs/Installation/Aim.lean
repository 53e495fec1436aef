/-
# Where the commands of an installation go

Every command of an installation is meant for one cluster, that of the provider,
and carries the deadline of the settings.  The tools find the cluster by its
name or by its context, so `Names` says what the words of a command for a
cluster are, and they tell which cluster it is (`Names.unique`).  `Aims` says of
any event that it goes to the cluster of a target; no container is looked into
but its control plane.

A part of a run is `Quiet` if all its events aim at the target and none creates
a cluster.  All parts are quiet but the creation itself, which is one command at
most (`aimed_of_create`).  So a run as a whole, quiet before it and after it,
creates once at most (`Aimed`).

The cluster of the test backend has a name of its own.  So nothing that is done
with this backend goes to the cluster of a real installation.
-/
import SingleNode.Proofs.Installation.Directories

namespace SingleNode

theorem Act.Only.silent {σ α : Type} {p : Event → Prop} {x : Act σ α}
    (h : x.Only p) : x.silent.Only p :=
  fun s e he => h s e (mem_deeds.mp he).1

/-- Holds for what can go to a cluster: a command that is run, or a look into a
container. -/
def Event.isDirected : Event → Bool
  | .run .. | .inspectContainer _ => true
  | _ => false

namespace Cluster

/-- The words of a command that creates the cluster with a name, or that goes to
it by its context. -/
inductive Names (name : String) : List String → Prop
  | creation (image config : String) :
      Names name ["kind", "create", "cluster", "--name", name, "--image", image,
        "--config", config]
  | helm (args : List String) :
      Names name ("helm" :: (args ++ ["--kube-context", "kind-" ++ name]))
  | kubectl (args : List String) :
      Names name ("kubectl" :: (args ++ ["--context", "kind-" ++ name]))

/-- Contexts at the end of the same words are those of one cluster. -/
theorem eq_of_context {name name' program option : String}
    {args args' : List String}
    (h : program :: (args ++ [option, "kind-" ++ name]) =
      program :: (args' ++ [option, "kind-" ++ name'])) : name = name' := by
  have hends : [option, "kind-" ++ name] = [option, "kind-" ++ name'] :=
    List.append_inj_right' (List.tail_eq_of_cons_eq h) rfl
  have hlast : "kind-" ++ name = "kind-" ++ name' :=
    List.head_eq_of_cons_eq (List.tail_eq_of_cons_eq hends)
  exact (String.append_right_inj "kind-").mp hlast

theorem cons_ne_of_program {program program' : String}
    {args args' : List String} (h : program ≠ program') :
    program :: args ≠ program' :: args' :=
  fun hw => h (List.head_eq_of_cons_eq hw)

/-- A command is for one cluster only. -/
theorem Names.unique {name name' : String} {words : List String}
    (h : Names name words) (h' : Names name' words) : name = name' := by
  cases h with
  | creation image config =>
    generalize hw : ["kind", "create", "cluster", "--name", name, "--image",
      image, "--config", config] =
        words at h'
    cases h' with
    | creation image' config' =>
      have hrest : name :: ["--image", image, "--config", config] =
          name' :: ["--image", image', "--config", config'] :=
        List.append_cancel_left
          (show ["kind", "create", "cluster", "--name"] ++ _ = _ ++ _ from hw)
      exact List.head_eq_of_cons_eq hrest
    | helm | kubectl => exact absurd hw (cons_ne_of_program (by decide))
  | helm args =>
    generalize hw : "helm" :: (args ++ ["--kube-context", "kind-" ++ name]) =
      words at h'
    cases h' with
    | helm args' => exact eq_of_context hw
    | creation | kubectl => exact absurd hw (cons_ne_of_program (by decide))
  | kubectl args =>
    generalize hw : "kubectl" :: (args ++ ["--context", "kind-" ++ name]) =
      words at h'
    cases h' with
    | kubectl args' => exact eq_of_context hw
    | creation | helm => exact absurd hw (cons_ne_of_program (by decide))

theorem Names.ne_listing {name : String} {words : List String}
    (h : Names name words) :
    words ≠ ["kind", "get", "clusters"] := by
  cases h with
  | creation image config =>
    intro hw
    exact absurd (List.head_eq_of_cons_eq (List.tail_eq_of_cons_eq hw))
      (by decide)
  | helm | kubectl => exact cons_ne_of_program (by decide)

/-- The test backend has a cluster of its own, whatever name is configured. -/
theorem Config.clusterName_ne_of_test {cfg : Config} (h : cfg.backend = .test) :
    cfg.provider.clusterName ≠ defaultName := by
  rw [Config.provider]
  by_cases hn : cfg.clusterName = defaultName
  · simp [h, hn, defaultName, testName]
  · simp [h, hn]

end Cluster

namespace Installation

open Chart (Target)

/-! ## Events that go to a cluster -/

/-- The event goes to the cluster of the target, if it goes to any. -/
def Aims (t : Target) : Event → Prop
  | .run words timeout _ _ =>
    timeout = t.cluster.commandTimeout ∧
      (words = ["kind", "get", "clusters"] ∨
        Cluster.Names t.provider.clusterName words)
  | .inspectContainer container =>
    t.provider.supportsIntrospection = true ∧
    container = t.provider.controlPlane
  | _ => True

/-- The event goes to the cluster of the target and creates none. -/
structure Calm (t : Target) (e : Event) : Prop where
  aims : Aims t e
  creates : e.createsCluster = false

/-- All events are calm. -/
def Quiet (t : Target) (es : List Event) : Prop := ∀ e ∈ es, Calm t e

/-- All events go to the cluster of the target, and one of them at most creates
it. -/
structure Aimed (t : Target) (es : List Event) : Prop where
  aims : ∀ e ∈ es, Aims t e
  once : es.countP Event.createsCluster ≤ 1

section Parts

variable {t : Target} {es fs : List Event}

theorem quiet_nil : Quiet t [] := nofun

theorem Quiet.append (h : Quiet t es) (h' : Quiet t fs) : Quiet t (es ++ fs) :=
  List.forall_mem_append.mpr ⟨h, h'⟩

theorem Quiet.countP (h : Quiet t es) : es.countP Event.createsCluster = 0 := by
  rw [List.countP_eq_zero]
  intro e he
  exact Bool.eq_false_iff.mp (h e he).creates

theorem Quiet.aimed (h : Quiet t es) : Aimed t es :=
  ⟨fun e he => (h e he).aims, h.countP ▸ Nat.zero_le 1⟩

theorem Aimed.after (h : Aimed t fs) (hq : Quiet t es) :
    Aimed t (es ++ fs) := by
  refine ⟨List.forall_mem_append.mpr ⟨hq.aimed.aims, h.aims⟩, ?_⟩
  rw [List.countP_append, hq.countP, Nat.zero_add]
  exact h.once

theorem Aimed.before (h : Aimed t es) (hq : Quiet t fs) :
    Aimed t (es ++ fs) := by
  refine ⟨List.forall_mem_append.mpr ⟨h.aims, hq.aimed.aims⟩, ?_⟩
  rw [List.countP_append, hq.countP, Nat.add_zero]
  exact h.once

theorem aimed_deeds : Aimed t (deeds es) ↔ Aimed t es := by
  have hcount :
      (deeds es).countP Event.createsCluster = es.countP Event.createsCluster :=
    countP_deeds (fun _ => Event.isMessage_of_createsCluster) es
  constructor
  · rintro ⟨ha, ho⟩
    refine ⟨?_, hcount ▸ ho⟩
    intro e he
    cases hm : e.isMessage with
    | false => exact ha e (mem_deeds.mpr ⟨he, hm⟩)
    | true =>
      cases e with
      | run | inspectContainer => exact nomatch hm
      | _ => trivial
  · rintro ⟨ha, ho⟩
    exact ⟨fun e he => ha e (mem_deeds.mp he).1, hcount.symm ▸ ho⟩

theorem calm_of_undirected {e : Event} (h : e.isDirected = false) :
    Calm t e := by
  cases e with
  | run | inspectContainer => exact nomatch h
  | _ => exact ⟨trivial, rfl⟩

theorem aims_attempt {c : Machine.Command} (m : Machine)
    (htimeout : c.timeout = t.cluster.commandTimeout)
    (hwords : c.words = ["kind", "get", "clusters"] ∨
      Cluster.Names t.provider.clusterName c.words) :
    Aims t (m.attempt c) := by
  rw [Machine.attempt]
  split
  · trivial
  · exact ⟨htimeout, hwords⟩

end Parts

/-! ## The parts of a run -/

section Calls

variable {t : Target} {m n : Machine} {d : List Event}

theorem quiet_of_run {α : Type} {x : Act Machine α} {r : Except Failure α}
    (hx : x.Only (Calm t)) (hr : x.silent.run m = ⟨d, n, r⟩) : Quiet t d := by
  have hq : Quiet t (x.silent.run m).events := hx.silent m
  rwa [hr] at hq

theorem calm_of_request {x e : Event} (he : Calm t e)
    (h : x ∈ m.requestDeeds e) : Calm t x := by
  rcases Machine.mem_requestDeeds h with rfl | ⟨rfl, -⟩
  · exact calm_of_undirected rfl
  · exact he

theorem only_version : Machine.version.Only (Calm t) := by
  intro m e he
  rw [Machine.run_version] at he
  exact calm_of_request (calm_of_undirected rfl) he

theorem only_ingressPort (h : t.provider.supportsIntrospection = true) :
    (Machine.ingressPort t.provider.controlPlane).Only (Calm t) := by
  intro m e he
  rw [Machine.run_ingressPort] at he
  exact calm_of_request ⟨show Aims t (.inspectContainer _) from ⟨h, rfl⟩, rfl⟩
    he

theorem only_tryPort (port : Int) : (Machine.tryPort port).Only (Calm t) := by
  intro m e he
  rw [Machine.run_tryPort] at he
  rw [List.mem_singleton.mp he]
  exact calm_of_undirected rfl

theorem quiet_of_lookup {r : Except Failure Cluster.Handle}
    (hl : ((collaborators t).lookup t.provider).silent.run m = ⟨d, n, r⟩) :
    Quiet t d := by
  obtain rfl : [m.attempt (Cluster.lookupCommand t.cluster)] = d :=
    congrArg Report.events
      ((Cluster.run_silent_lookup t.cluster t.provider m).symm.trans hl)
  refine List.forall_mem_singleton.mpr ⟨aims_attempt m rfl (.inl rfl), ?_⟩
  rw [Machine.attempt]
  split <;> rfl

theorem aimed_of_create {port : Int} {mounts : List Mount}
    {r : Except Failure Unit}
    (hc : ((collaborators t).create t.provider port mounts).silent.run m =
      ⟨d, n, r⟩) : Aimed t d := by
  cases making_of_create hc with
  | refused => exact quiet_nil.aimed
  | unmade => exact quiet_nil.aimed
  | asked =>
    have hnames : Cluster.Names t.provider.clusterName
        (Cluster.createCommand t.cluster t.provider port mounts).words :=
          .creation _ _
    exact ⟨List.forall_mem_singleton.mpr (aims_attempt _ rfl (.inr hnames)),
      List.countP_le_length⟩

theorem calm_of_onCluster {c : Machine.Command} (h : t.OnCluster c)
    (m : Machine) :
    Calm t (m.attempt c) := by
  have other (program : String) (hc : c.program = program)
      (hp : program ≠ "kind") :
      (m.attempt c).createsCluster = false := by
    refine Event.createsCluster_of_program ?_
    rw [Machine.program?_attempt, hc]
    exact fun h => hp (Option.some.inj h)
  cases h with
  | helm args =>
    exact ⟨aims_attempt m rfl (.inr (.helm args)), other "helm" rfl (by decide)⟩
  | kubectl args input =>
    exact ⟨aims_attempt m rfl (.inr (.kubectl args)),
      other "kubectl" rfl (by decide)⟩

theorem only_migrateIfAsked (o : Options) :
    (t.migrateIfAsked o).Only (Calm t) := by
  have hP : Act.Tracing fun (_ : Machine) es (_ : Machine) => Quiet t es :=
    Act.tracing_only (Calm t)
  have told (e : Event) (he : e.isDirected = false) :
      (Act.emit e : Act Machine Unit).Only (Calm t) :=
    fun _ => List.forall_mem_singleton.mpr (calm_of_undirected he)
  have copied :
      (Machine.extractVolume Target.migrationVolume t.migrationDir).Only
      (Calm t) :=
    Machine.only_extractVolume (fun _ => calm_of_undirected rfl)
      (calm_of_undirected rfl)
      (calm_of_undirected rfl) (calm_of_undirected rfl)
  refine Act.Tracing.ite ?_ (hP.pure ())
  exact hP.bind (told _ rfl) fun _ => hP.bind copied fun _ => told _ rfl

theorem quiet_of_exchanged {log : List Machine.Exchange} {m m' : Machine}
    {kind : FaultClass} (h : Machine.Exchanged kind m log m')
    (hlog : ∀ x ∈ log, t.OnCluster x.command) :
    Quiet t (log.map Machine.Exchange.deed) := by
  intro e he
  obtain ⟨x, hx, rfl⟩ := List.mem_map.mp he
  obtain ⟨n, hn⟩ := h.exists_attempt hx
  rw [hn]
  exact calm_of_onCluster (hlog x hx) n

theorem quiet_pageDeeds (o : Options) (r : Except Failure Unit) :
    Quiet t (Target.pageDeeds o r) := by
  cases r with
  | error e => exact quiet_nil
  | ok u =>
    rw [Target.pageDeeds]
    split
    · exact quiet_nil
    · exact List.forall_mem_singleton.mpr (calm_of_undirected rfl)

theorem quiet_of_install {o : Options} {r : Except Failure Unit}
    (hi : ((collaborators t).install o).silent.run m = ⟨d, n, r⟩) :
    Quiet t d := by
  obtain rfl : deeds ((t.install o).run m).events = d :=
    congrArg Report.events hi
  have hmigrate : Quiet t ((t.migrateIfAsked o).silent.run m).events :=
    (only_migrateIfAsked o).silent m
  cases hm : Target.missingFile? m o with
  | some file =>
    rw [t.run_install_of_missing o hm]
    exact quiet_nil
  | none =>
    rcases t.run_install_of_found o hm
      with ⟨e, -, hd, -, -⟩ | ⟨-, manifest, log, hf⟩
    · rw [hd]
      exact hmigrate
    · rw [hf.deeds]
      refine hmigrate.append
        ((quiet_of_exchanged hf.exchanged ?_).append (quiet_pageDeeds o _))
      intro x hx
      exact t.onCluster_of_plan o
        (hf.follows.isPrefix.subset (List.mem_map_of_mem hx))

end Calls

/-! ## The whole run -/

theorem aimed_of_provisioning {t : Target} {port : Int} {specs : List String}
    {m : Machine} {r : Report Machine Provisioning.Outcome}
    (h : Provisioning.Course (collaborators t) t.provider port specs m r) :
    Aimed t r.events := by
  cases h with
  | lookupFails hl => exact (quiet_of_lookup hl).aimed
  | taken hl => exact (quiet_of_lookup hl).aimed
  | observed hl _ hi hp =>
    exact ((quiet_of_lookup hl).append
      (quiet_of_run (only_ingressPort hi) hp)).aimed
  | undetermined hl _ hi hp =>
    exact ((quiet_of_lookup hl).append
      (quiet_of_run (only_ingressPort hi) hp)).aimed
  | introspectionFails hl _ hi hp =>
    exact ((quiet_of_lookup hl).append
      (quiet_of_run (only_ingressPort hi) hp)).aimed
  | malformed hl => exact (quiet_of_lookup hl).aimed
  | portFails hl _ _ hp =>
    exact ((quiet_of_lookup hl).append
      (quiet_of_run (only_tryPort port) hp)).aimed
  | createFails hl _ _ hp hc =>
    exact ((aimed_of_create hc).after
      (quiet_of_run (only_tryPort port) hp)).after (quiet_of_lookup hl)
  | created hl _ _ hp hc =>
    exact ((aimed_of_create hc).after
      (quiet_of_run (only_tryPort port) hp)).after (quiet_of_lookup hl)

theorem aimed_of_course {t : Target} {env : Settings.Environment}
    {request : Request} {m : Machine} {r : Report Machine Options}
    (h : Pipeline.Course (collaborators t) t.provider env request m r) :
    Aimed t r.events := by
  cases h with
  | engineFails hv => exact (quiet_of_run only_version hv).aimed
  | provisioningFails hv hp =>
    exact (aimed_of_provisioning hp).after (quiet_of_run only_version hv)
  | incomplete hv hp =>
    exact (aimed_of_provisioning hp).after (quiet_of_run only_version hv)
  | installFails hv hp _ _ hi =>
    exact ((aimed_of_provisioning hp).before (quiet_of_install hi)).after
      (quiet_of_run only_version hv)
  | installed hv hp _ _ hi =>
    exact ((aimed_of_provisioning hp).before (quiet_of_install hi)).after
      (quiet_of_run only_version hv)

theorem aimed_runOn (t : Target) (env : Settings.Environment)
    (request : Request) (s : Observed Machine) :
    Aimed t ((runOn t env request).run s).events := by
  obtain ⟨q, hcourse, -⟩ :=
    Pipeline.run_course (collaborators t) t.provider env request
    (begin t.cluster.commandTimeout s)
  rw [runOn, run_closing]
  refine (aimed_deeds.mp (aimed_of_course hcourse)).before ?_
  split
  · exact List.forall_mem_singleton.mpr (calm_of_undirected rfl)
  · exact quiet_nil

theorem provider_of_target {clusterArgs chartArgs : Option Settings.Arguments}
    {env : Settings.Environment} {t : Target}
    (h : target clusterArgs chartArgs env = .ok t) :
    t.provider = t.cluster.provider := by
  have last {α β : Type} {x : Except Settings.Invalid α} {f : α →
    Except Settings.Invalid β} {b : β}
      (h : x >>= f = .ok b) : ∃ a, f a = .ok b := by
    cases x with
    | error invalid => exact nomatch h
    | ok a => exact ⟨a, h⟩
  rw [target] at h
  obtain ⟨givenCluster, h⟩ := last h
  obtain ⟨givenChart, h⟩ := last h
  obtain ⟨cluster, h⟩ := last h
  obtain ⟨chart, h⟩ := last h
  obtain rfl : Target.mk cluster.provider cluster chart = t := Except.ok.inj h
  rfl

/-- The event does something with the cluster of a real installation, or looks
into a container. -/
def ReachesReal : Event → Prop
  | .run words _ _ _ => Cluster.Names Cluster.defaultName words
  | .inspectContainer _ => True
  | _ => False

/-- What goes to a cluster of the test backend does not reach that of a real
installation. -/
theorem Aims.not_reachesReal {t : Target} {e : Event} (h : Aims t e)
    (ht : t.provider = t.cluster.provider) (hb : t.cluster.backend = .test) :
    ¬ReachesReal e := by
  intro hr
  cases e with
  | run words =>
    obtain ⟨-, rfl | hn⟩ := h
    · exact Cluster.Names.ne_listing hr rfl
    · refine Cluster.Config.clusterName_ne_of_test hb ?_
      rw [← ht]
      exact hn.unique hr
  | inspectContainer container =>
    obtain ⟨hi, -⟩ := h
    rw [ht, Cluster.Provider.supportsIntrospection,
      Cluster.Config.provider, hb] at hi
    exact nomatch hi
  | _ => exact hr

/-- All that an installation does goes to one cluster, that of the provider that
the settings ask for: it is created once at most, each command names it or its
context and has the deadline of the settings, and no container is looked into
but its control plane.  With the test backend the name is not that of a real
installation, so nothing that is done reaches this, and no container is looked
into at all. -/
theorem aimed_run (clusterArgs chartArgs : Option Settings.Arguments)
    (env : Settings.Environment) (request : Request) (s : Observed Machine) :
    let r := (run clusterArgs chartArgs env request).run s
    match target clusterArgs chartArgs env with
    | .error _ => r.events = []
    | .ok t => t.provider = t.cluster.provider ∧ Aimed t r.events ∧
      (t.cluster.backend = .test →
        t.provider.clusterName ≠ Cluster.defaultName ∧
        ∀ e ∈ r.events, ¬ReachesReal e) := by
  rw [run_eq]
  cases ht : target clusterArgs chartArgs env with
  | error invalid => rfl
  | ok t =>
    have hp : t.provider = t.cluster.provider := provider_of_target ht
    rw [loaded_ok, pure_bind]
    refine ⟨hp, aimed_runOn t env request s, ?_⟩
    intro hb
    refine ⟨hp ▸ Cluster.Config.clusterName_ne_of_test hb, ?_⟩
    intro e he
    exact ((aimed_runOn t env request s).aims e he).not_reachesReal hp hb

end Installation

end SingleNode
