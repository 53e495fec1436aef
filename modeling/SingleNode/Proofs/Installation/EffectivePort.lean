/-
# The port of an installation

An installation that returns has one port: the one in the options that it
returns.  The platform is told the address with this port, the browser opens
that address, and the ingress routes the host in it.

Which port it is depends on how there came to be a cluster, and there are four
ways (`Provided`).  If one was created the port is the one asked for; it was
tried before, and the manifest maps it.  If one was taken over, the port is what
the engine reports of the control plane, whatever was asked for.  The port asked
for is kept only if the engine does not report any, or the provider is one whose
ports cannot be told.
-/
import SingleNode.Proofs.Chart.Installation
import SingleNode.Proofs.Cluster.Manager
import SingleNode.Proofs.Installation.Target
import SingleNode.Proofs.Machine.Requests
import SingleNode.Proofs.Pipeline.Course

namespace SingleNode.Installation

open Machine (Reports)
open Provisioning (ready)

/-! ## How there came to be a cluster -/

/-- The deeds of provisioning that ended well, and the port that came of it. -/
inductive Provided (t : Chart.Target) (port : Int) (specs : List String)
    (engine : Engine) :
    List Event → Int → Prop
  | taken :
      t.provider.backend = .test →
      Provided t port specs engine [(Cluster.lookupCommand t.cluster).ran] port
  | told {p : Int} :
      t.provider.backend = .kind → Reports engine t.provider.controlPlane p →
      Provided t port specs engine
        [(Cluster.lookupCommand t.cluster).ran,
          .inspectContainer t.provider.controlPlane] p
  | untold :
      t.provider.backend = .kind →
      (∀ p, ¬Reports engine t.provider.controlPlane p) →
      Provided t port specs engine
        [(Cluster.lookupCommand t.cluster).ran,
          .inspectContainer t.provider.controlPlane] port
  | created {mounts : List Mount} :
      Mount.parseAll specs = .ok mounts →
      Provided t port specs engine
        [(Cluster.lookupCommand t.cluster).ran, .bind "localhost" port,
          (Cluster.createCommand t.cluster t.provider port mounts).ran] port

theorem of_lookup_ok {t : Chart.Target} {m m' : Machine} {d : List Event}
    {h : Cluster.Handle}
    (hl : ((collaborators t).lookup t.provider).silent.run m = ⟨d, m', .ok h⟩) :
    d = [(Cluster.lookupCommand t.cluster).ran] ∧ m'.engine = m.engine ∧
      m'.connection = m.connection := by
  change (Cluster.lookup t.cluster t.provider).silent.run m = _ at hl
  rw [Cluster.run_silent_lookup] at hl
  obtain ⟨rfl, rfl, ha⟩ := Report.mk.inj hl
  cases hans : m.answer .indeterminateState (Cluster.lookupCommand t.cluster)
    with
  | error e =>
    rw [hans] at ha
    exact nomatch ha
  | ok stdout =>
    exact ⟨by rw [Machine.attempt_of_answer hans], by simp, by simp⟩

theorem of_ingressPort {t : Chart.Target} {m m' : Machine} {d : List Event}
    {container : String} {r : Except Failure Int}
    (hm : m.connection.connected = true)
    (hp : ((collaborators t).ingressPort container).silent.run m = ⟨d, m', r⟩) :
    d = [.inspectContainer container] ∧
    Machine.readPort m.engine container = r := by
  change (Machine.ingressPort container).silent.run m = _ at hp
  rw [Machine.run_silent_ingressPort hm] at hp
  obtain ⟨rfl, -, hr⟩ := Report.mk.inj hp
  exact ⟨rfl, hr⟩

/-- With a connection to the engine, provisioning ends well in one of four ways
only. -/
theorem provided_of_course {t : Chart.Target} {port : Int} {specs : List String}
    {m m' : Machine} {d : List Event} {r : Except Failure Provisioning.Outcome}
    {o : Provisioning.Outcome} (hm : m.connection.connected = true)
    (h : Provisioning.Course (collaborators t) t.provider port specs m
      ⟨d, m', r⟩) (hr : ready r = .ok o) :
    Provided t port specs m.engine d o.port := by
  have supports : t.provider.supportsIntrospection = true ↔
      t.provider.backend = .kind := by
    simp [Cluster.Provider.supportsIntrospection]
  cases h with
  | lookupFails hl =>
    rw [Provisioning.ready_settled] at hr
    exact nomatch hr
  | taken hl hf hi =>
    obtain ⟨rfl, -⟩ := of_lookup_ok hl
    obtain rfl := Except.ok.inj hr
    refine .taken ?_
    cases hb : t.provider.backend with
    | test => rfl
    | kind => exact nomatch hi.symm.trans (supports.mpr hb)
  | observed hl hf hi hp =>
    obtain ⟨rfl, he, hc⟩ := of_lookup_ok hl
    obtain rfl := Except.ok.inj hr
    obtain ⟨rfl, hread⟩ := of_ingressPort (hc ▸ hm) hp
    exact .told (supports.mp hi) (he ▸ Machine.readPort_eq_ok_iff.mp hread)
  | undetermined hl hf hi hp ht =>
    obtain ⟨rfl, he, hc⟩ := of_lookup_ok hl
    obtain rfl := Except.ok.inj hr
    obtain ⟨rfl, hread⟩ := of_ingressPort (hc ▸ hm) hp
    refine .untold (supports.mp hi) fun q hq => ?_
    exact nomatch hread.symm.trans
      (Machine.readPort_eq_ok_iff.mpr (he.symm ▸ hq))
  | introspectionFails => exact nomatch hr
  | malformed => exact nomatch hr
  | portFails =>
    rw [Provisioning.ready_settled] at hr
    exact nomatch hr
  | createFails =>
    rw [Provisioning.ready_settled] at hr
    exact nomatch hr
  | created hl hf hs hp hcr =>
    obtain ⟨rfl, -⟩ := of_lookup_ok hl
    obtain rfl := Except.ok.inj hr
    obtain ⟨rfl, rfl⟩ := Machine.run_silent_tryPort_eq_ok hp
    rw [Cluster.events_of_create _ _ hcr]
    exact .created hs

namespace Provided

variable {t : Chart.Target} {port p : Int} {specs : List String}
  {engine : Engine} {d : List Event}

theorem filter_isBrowser (h : Provided t port specs engine d p) :
    d.filter Event.isBrowser = [] := by
  cases h <;> rfl

theorem of_creates (h : Provided t port specs engine d p) {e : Event}
    (he : e ∈ d) (hc : e.createsCluster = true) :
    p = port ∧ [.bind "localhost" p, e].Sublist d ∧
    ∃ mounts, Mount.parseAll specs = .ok mounts ∧
      e = (Cluster.createCommand t.cluster t.provider p mounts).ran := by
  have lookup : (Cluster.lookupCommand t.cluster).ran.createsCluster = false :=
    rfl
  cases h with
  | created hs =>
    simp only [List.mem_cons, List.not_mem_nil, or_false] at he
    rcases he with rfl | rfl | rfl
    · exact nomatch lookup.symm.trans hc
    · exact nomatch hc
    · exact ⟨rfl, List.sublist_cons_self _ _, _, hs, rfl⟩
  | _ =>
    simp only [List.mem_cons, List.not_mem_nil, or_false] at he
    rcases he with rfl | rfl <;> exact nomatch hc

theorem of_not_creates (h : Provided t port specs engine d p)
    (hn : ∀ e ∈ d, e.createsCluster = false) :
    t.provider.backend = .kind ∧ Reports engine t.provider.controlPlane p ∨
      (t.provider.backend = .test ∨
        ∀ q, ¬Reports engine t.provider.controlPlane q) ∧ p = port := by
  cases h with
  | taken hb => exact .inr ⟨.inl hb, rfl⟩
  | told hb hr => exact .inl ⟨hb, hr⟩
  | untold _ hr => exact .inr ⟨.inr hr, rfl⟩
  | @created mounts =>
    have hc :
        (Cluster.createCommand t.cluster t.provider port
        mounts).ran.createsCluster = true := rfl
    exact nomatch hc.symm.trans (hn _ (by simp))

end Provided

/-! ## The one port -/

def address (host : String) (port : Int) : String :=
  "http://" ++ host ++ ":" ++ toString port

/-- The port is the one that an installation with the given deeds has
throughout. -/
structure IsEffective (cluster : Cluster.Config) (chart : Chart.Coordinates)
    (request : Request) (engine : Engine) (es : List Event)
    (port : Int) : Prop where
  /-- The last two commands install the platform, which is told the address, and
  apply the ingress, which routes the host. -/
  served : ∃ upgrade apply document,
    [.run upgrade cluster.commandTimeout none none,
      .run apply cluster.commandTimeout (some (Yaml.Node.document document))
        none] <:+
        es.filter Event.isCommand ∧
    ["helm", "upgrade", "--install", chart.release, chart.chart] <+: upgrade ∧
    ["--set", "global.airbyteUrl=" ++ address request.host port] <:+: upgrade ∧
    ["kubectl", "apply", "-f", "-"] <+: apply ∧
    (Yaml.Node.mapping document).select ["spec", "rules", "host"] =
      [.text request.host]
  /-- The one page that is opened, if any, is at that address. -/
  opened : es.filter Event.isBrowser =
    if request.noBrowser then [] else [.browser (address request.host port)]
  /-- If a cluster was created, the port is the one asked for, was tried before,
  and is mapped. -/
  created : ∀ e ∈ es, e.createsCluster = true →
    port = request.port ∧ [.bind "localhost" port, e].Sublist es ∧
    ∃ words document,
      e = .run words cluster.commandTimeout none
        (some (Yaml.Node.document document)) ∧
      (Yaml.Node.mapping document).select ["nodes", "extraPortMappings",
        "hostPort"] =
          [.integer port]
  /-- If none was created and the engine reports a port, it is this, whatever
  was asked for. -/
  reported : (∀ e ∈ es, e.createsCluster = false) → cluster.backend = .kind →
    ∀ q, Reports engine (cluster.clusterName ++ "-control-plane") q → port = q
  /-- If none was created and no port can be told, it is the one asked for. -/
  kept : (∀ e ∈ es, e.createsCluster = false) →
    (cluster.backend = .test ∨
      ∀ q, ¬Reports engine (cluster.clusterName ++ "-control-plane") q) →
        port = request.port

/-! ## Installations that return -/

variable {clusterArgs chartArgs : Option Settings.Arguments}
  {env : Settings.Environment}
  {request : Request} {cluster : Cluster.Config} {chart : Chart.Coordinates}
  {s : Observed Machine} {o : Options}

theorem loaded_of_run
    (h : ((run clusterArgs chartArgs env request).run s).outcome = .ok o) :
    ∃ cluster chart, Cluster.Config.load (clusterArgs.getD []) env =
      .ok cluster ∧
      Chart.Coordinates.load (chartArgs.getD []) env = .ok chart ∧
      (run clusterArgs chartArgs env request).run s =
        (runWith cluster chart env request).run s := by
  cases hs : settings clusterArgs chartArgs env with
  | error invalid =>
    rw [run, hs] at h
    cases h
  | ok both =>
    obtain ⟨cluster, chart⟩ := both
    obtain ⟨hk, hc⟩ := settings_eq_ok_iff.mp hs
    refine ⟨cluster, chart, hk, hc, ?_⟩
    rw [run, hs, loaded_ok, pure_bind]

theorem course_of_runWith
    (h : ((runWith cluster chart env request).run s).outcome = .ok o) :
    let t : Chart.Target := ⟨cluster.provider, cluster, chart⟩
    ∃ d after m',
      deeds ((runWith cluster chart env request).run s).events = d ++ after ∧
      (∀ e ∈ after, e.IsRequest) ∧
      Pipeline.Course (collaborators t) t.provider env request
        (begin cluster.commandTimeout s).world ⟨d, m', .ok o⟩ := by
  intro t
  have hw : (runWith cluster chart env request).run s =
      (Act.ensure (Pipeline.run (collaborators t) t.provider env request)
        Machine.disconnect.within).run (begin cluster.commandTimeout s) := rfl
  obtain ⟨ho, hes⟩ := Act.run_ensure_eq_ok (hw ▸ h)
  rw [← hw] at hes
  refine ⟨_, _, _, (congrArg deeds hes).trans (deeds_append _ _), ?_,
    Pipeline.course_of_ok ho⟩
  exact fun e he => Machine.only_disconnect _ e (mem_deeds.mp he).1

theorem deeds_of_runWith
    (h : ((runWith cluster chart env request).run s).outcome = .ok o) :
    let t : Chart.Target := ⟨cluster.provider, cluster, chart⟩
    let es := ((runWith cluster chart env request).run s).events
    ∃ before provided installed after port m m',
      deeds es = before ++ (provided ++ installed) ++ after ∧
      (∀ e ∈ before, e.IsRequest) ∧ (∀ e ∈ after, e.IsRequest) ∧
      Provided t request.port request.volumes s.world.engine provided port ∧
      o = Pipeline.optionsFor env request port ∧
      (t.install o).silent.run m = ⟨installed, m', .ok ()⟩ := by
  intro t es
  obtain ⟨d, after, m', hd, hafter, hc⟩ := course_of_runWith h
  cases hc with
  | @installed before provided installed m m' m'' v r outcome hv hp hr _ hi =>
    change Machine.version.silent.run _ = _ at hv
    have hm := Machine.state_of_version hv
    have hbefore : ∀ e ∈ before, e.IsRequest := by
      rw [Act.run_silent] at hv
      obtain ⟨rfl, -⟩ := Report.mk.inj hv
      exact fun e he => Machine.traced_requests.version _ e (mem_deeds.mp he).1
    refine ⟨before, provided, installed, after, outcome.port, _, _, hd, hbefore,
      hafter, ?_, rfl, hi⟩
    -- the connection that asking for the version made is still there
    have hpr := provided_of_course (hm ▸ rfl) hp hr
    rwa [hm] at hpr

theorem select_host (o : Options) (c : Chart.Coordinates) :
    (Yaml.Node.mapping (Chart.ingress o c)).select ["spec", "rules", "host"] =
      [.text o.host] := by
  simp [Chart.ingress, Yaml.Node.select, Yaml.Node.parts]

theorem address_infix (t : Chart.Target) (o : Options) :
    ["--set", "global.airbyteUrl=" ++ address o.host o.port]
      <:+: (t.platformCommand o).words := by
  have hv :
      "global.airbyteUrl=" ++ address o.host o.port ∈ Chart.overrides o := by
    rw [Chart.Target.overrides_eq, Chart.Target.settings]
    simp [address, Options.url]
  have hs : ["--set", "global.airbyteUrl=" ++ address o.host o.port] <:+:
      (Chart.overrides o).flatMap fun value => ["--set", value] :=
    List.infix_flatMap_of_mem hv fun value => ["--set", value]
  exact ((hs.trans (List.suffix_append _ _).isInfix).trans
    (List.prefix_append _ _).isInfix).trans (List.suffix_cons _ _).isInfix

theorem upgrade_prefix (t : Chart.Target) (o : Options) :
    ["helm", "upgrade", "--install", t.chart.release, t.chart.chart] <+:
      (t.platformCommand o).words := by
  simp [Chart.Target.platformCommand, Chart.Target.helm, Machine.Command.words]

theorem apply_prefix (t : Chart.Target) (o : Options) :
    ["kubectl", "apply", "-f", "-"] <+: (t.ingressCommand o).words := by
  simp [Chart.Target.ingressCommand, Chart.Target.applyCommand,
    Chart.Target.kubectl, Machine.Command.words]

theorem backend_provider (cfg : Cluster.Config) :
    cfg.provider.backend = cfg.backend := rfl

theorem controlPlane_of_kind {cfg : Cluster.Config} (h : cfg.backend = .kind) :
    cfg.provider.controlPlane = cfg.clusterName ++ "-control-plane" := by
  simp [Cluster.Config.provider, Cluster.Provider.controlPlane, h]

/-- The port that provisioning came to is the port of an installation that went
on with it. -/
theorem isEffective_of_deeds {t : Chart.Target}
    (ht : t.provider = t.cluster.provider) {port : Int} {engine : Engine}
    {es before provided installed after : List Event} {m m' : Machine}
    {u : Unit} (hd : deeds es = before ++ (provided ++ installed) ++ after)
    (hbefore : ∀ e ∈ before, e.IsRequest) (hafter : ∀ e ∈ after, e.IsRequest)
    (hp : Provided t request.port request.volumes engine provided port)
    (hi : (t.install (Pipeline.optionsFor env request port)).silent.run m =
      ⟨installed, m', .ok u⟩) :
    IsEffective t.cluster t.chart request engine es port := by
  let o := Pipeline.optionsFor env request port
  obtain ⟨hlast, hpage, hprogram⟩ := t.commands_of_install _ hi
  -- clusters are created by a program that only provisioning runs
  have creates {e : Event} (he : e ∈ es) (hc : e.createsCluster = true) :
      e ∈ provided := by
    have he : e ∈ deeds es :=
      mem_deeds.mpr ⟨he, Event.isMessage_of_createsCluster hc⟩
    have request {e : Event} (h : e.IsRequest) : e.createsCluster = false :=
      Event.createsCluster_of_program (by rw [h.program?]; exact nofun)
    simp only [hd, List.mem_append] at he
    rcases he with (he | he | he) | he
    · exact nomatch (request (hbefore e he)).symm.trans hc
    · exact he
    · exact nomatch (Event.createsCluster_of_program (hprogram e he)).symm.trans
        hc
    · exact nomatch (request (hafter e he)).symm.trans hc
  have hsub : provided.Sublist es := by
    have hds : (deeds es).Sublist es := List.filter_sublist
    refine .trans ?_ hds
    rw [hd]
    exact ((List.sublist_append_left _ _).trans
      (List.sublist_append_right _ _)).trans
      (List.sublist_append_left _ _)
  have none (hn : ∀ e ∈ es, e.createsCluster = false) :=
    hp.of_not_creates fun e he => hn e (hsub.subset he)
  constructor
  · refine ⟨_, _, _, ?_, upgrade_prefix t o, address_infix t o,
      apply_prefix t o, select_host o t.chart⟩
    have hes : es.filter Event.isCommand =
        provided.filter Event.isCommand ++
          installed.filter Event.isCommand := by
      rw [← filter_deeds Event.isMessage_of_isCommand, hd]
      simp only [List.filter_append, Event.filter_isCommand_of_requests hbefore,
        Event.filter_isCommand_of_requests hafter, List.nil_append,
          List.append_nil]
    rw [hes]
    exact hlast.trans (List.suffix_append _ _)
  · rw [← filter_deeds Event.isMessage_of_isBrowser, hd]
    simp only [List.filter_append, Event.filter_isBrowser_of_requests hbefore,
      Event.filter_isBrowser_of_requests hafter, hp.filter_isBrowser,
        List.nil_append,
      List.append_nil]
    exact hpage
  · intro e he hc
    obtain ⟨rfl, hs, mounts, -, rfl⟩ := hp.of_creates (creates he hc) hc
    exact ⟨rfl, hs.trans hsub, _, _, rfl, Cluster.select_hostPort _ _ _⟩
  · intro hn hk q hq
    rw [← controlPlane_of_kind hk, ← ht] at hq
    rcases none hn with ⟨-, hr⟩ | ⟨hb | hr, -⟩
    · exact hr.unique hq
    · rw [ht, backend_provider] at hb
      exact nomatch hb.symm.trans hk
    · exact absurd hq (hr q)
  · intro hn hk
    rcases none hn with ⟨hb, hr⟩ | ⟨-, rfl⟩
    · rw [ht, backend_provider] at hb
      rcases hk with hk | hk
      · exact nomatch hb.symm.trans hk
      · rw [ht, controlPlane_of_kind hb] at hr
        exact absurd hr (hk port)
    · rfl

/-- An installation that returns has one port. -/
theorem exists_effective_port
    (h : ((run clusterArgs chartArgs env request).run s).outcome = .ok o) :
    ∃ cluster chart port,
      Cluster.Config.load (clusterArgs.getD []) env = .ok cluster ∧
      Chart.Coordinates.load (chartArgs.getD []) env = .ok chart ∧
      o.port = port ∧
      IsEffective cluster chart request s.world.engine
        ((run clusterArgs chartArgs env request).run s).events port := by
  obtain ⟨cluster, chart, hk, hc, hrun⟩ := loaded_of_run h
  rw [hrun] at h ⊢
  obtain ⟨before, provided, installed, after, port, m, m', hd, hbefore, hafter,
    hp, rfl, hi⟩ :=
    deeds_of_runWith h
  exact ⟨cluster, chart, port, hk, hc, rfl,
    isEffective_of_deeds rfl hd hbefore hafter hp hi⟩

/-- A machine with a cluster that can be reached at port 9000. -/
def clusterMachine : Machine where
  rules :=
    [⟨["kind", "get", "clusters"], none, .succeeds (.text "airbyte-abctl\n")⟩]
  engine :=
    { containers := [("airbyte-abctl-control-plane",
        .ok [("80/tcp", [[("HostPort", .text "9000")]])])] }
  tree := .empty ["work"]

def clusterRun : Report (Observed Machine) Options :=
  (run none none ⟨"/root", []⟩ { port := 8000 }).run ⟨{}, [], clusterMachine⟩

/-- It has the port of the cluster. -/
theorem effective_port_of_cluster :
    ∃ o cluster chart, clusterRun.outcome = .ok o ∧ o.port = 9000 ∧
      IsEffective cluster chart { port := 8000 } clusterMachine.engine
        clusterRun.events 9000 := by
  have hp : clusterRun.outcome.toOption.map Options.port = some 9000 := by
    decide +kernel
  cases ho : clusterRun.outcome with
  | error e =>
    rw [ho] at hp
    exact nomatch hp
  | ok o =>
    have hp : o.port = 9000 := by simpa [ho, Except.toOption] using hp
    obtain ⟨cluster, chart, port, -, -, hport, he⟩ := exists_effective_port ho
    rw [← hport, hp] at he
    exact ⟨o, cluster, chart, rfl, hp, he⟩

end SingleNode.Installation
