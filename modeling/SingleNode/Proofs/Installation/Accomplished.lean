/-
# Installations that return

What an installation that returns has done (`Accomplished`): the engine told its
version, the clusters were listed, a cluster was created exactly if it was not
listed, both charts were installed and the ingress was applied, and every
command exited with the status 0 but for the one that makes the namespace, which
may be there already.

The commands are told by the dialogue with the shell of the machine that the
installation started on, so that nothing is said of machines in between.
-/
import SingleNode.Proofs.Cluster.Lookup
import SingleNode.Proofs.Installation.EffectivePort

namespace SingleNode

namespace Machine

theorem of_version_ok {m m' : Machine} {d : List Event} {v : EngineVersion}
    (hm : m.connection.connected = false)
    (h : version.silent.run m = ⟨d, m', .ok v⟩) :
    Event.engineVersion ∈ d ∧ m.engine.connectFailure = none ∧
    ∃ info, m.engine.version = .ok info := by
  obtain ⟨hreachable, rfl, -, hinfo⟩ := of_version_eq_ok h
  refine ⟨List.mem_append_right _ (List.mem_singleton_self _), ?_, hinfo⟩
  rcases hreachable with hc | hf
  · exact absurd hc (Bool.eq_false_iff.mp hm)
  · exact hf

end Machine

namespace Installation

open Machine (Command Ran Succeeded)
open Provisioning (ready)

/-- The given commands are all that were run, and what they tell of an
installation that returns. -/
structure Accomplished (t : Chart.Target) (o : Options) (m : Machine)
    (es : List Event) (commands : List Command) : Prop where
  /-- The engine was asked for its version and told it. -/
  version : Event.engineVersion ∈ es ∧ m.engine.connectFailure = none ∧
    ∃ info, m.engine.version = .ok info
  /-- These commands were run and no others. -/
  ran : es.filter Event.isCommand = commands.map Command.ran
  /-- The clusters were listed first, and one was created exactly if it was not
  in the listing. -/
  listed : ∃ query stdout listing names rest,
    m.shell.dialogue commands = (query, some (.succeeds stdout)) :: rest ∧
    query.words = ["kind", "get", "clusters"] ∧
    stdout.read = .ok listing ∧ Cluster.Lists names listing ∧
    ((∃ x ∈ rest, x.1.ran.createsCluster = true ∧ Succeeded x) ↔
      t.provider.clusterName ∉ names)
  /-- The commands for the charts are those of the plan, after the others. -/
  planned : ∃ first manifest, commands = first ++ t.plan o manifest
  /-- In the end both charts were installed and the ingress was applied. -/
  installed : ∃ before nginx platform ingress a b c,
    m.shell.dialogue commands = before ++
      [(nginx, some (.succeeds a)), (platform, some (.succeeds b)),
        (ingress, some (.succeeds c))] ∧
    ["helm", "upgrade", "--install", t.chart.nginxRelease, t.chart.nginxChart]
      <+: nginx.words ∧
    ["helm", "upgrade", "--install", t.chart.release, t.chart.chart]
      <+: platform.words ∧
    ["kubectl", "apply", "-f", "-"] <+: ingress.words ∧
    ingress.input = some (Chart.ingressText o t.chart)
  /-- All commands succeeded, but the namespace may have been there. -/
  succeeded : ∀ x ∈ m.shell.dialogue commands, Succeeded x ∨ t.NamespaceThere x

variable {t : Chart.Target}

/-- The command with which a cluster is made, if none was listed. -/
inductive Created (t : Chart.Target) (listing : String) (shell : Shell) :
    List Command → Prop
  | found : t.provider.clusterName ∈ Cluster.listedNames listing →
      Created t listing shell []
  | made (port : Int) (mounts : List Mount) (stdout : Output) :
      t.provider.clusterName ∉ Cluster.listedNames listing →
      shell.reply? (Cluster.createCommand t.cluster t.provider port mounts) =
        some (.succeeds stdout) →
      Created t listing shell
        [Cluster.createCommand t.cluster t.provider port mounts]

theorem ran_of_lookup {m m' : Machine} {d : List Event} {h : Cluster.Handle}
    (hl : ((collaborators t).lookup t.provider).silent.run m = ⟨d, m', .ok h⟩) :
    ∃ stdout listing,
      m.shell.reply? (Cluster.lookupCommand t.cluster) =
        some (.succeeds stdout) ∧
      stdout.read = .ok listing ∧
      (h.found = true ↔ t.provider.clusterName ∈ Cluster.listedNames listing) ∧
      Ran m d [Cluster.lookupCommand t.cluster] m' ∧
      m'.connection = m.connection := by
  change (Cluster.lookup t.cluster t.provider).silent.run m = _ at hl
  rw [Cluster.run_silent_lookup] at hl
  obtain ⟨rfl, rfl, ha⟩ := Report.mk.inj hl
  cases hans : m.answer .indeterminateState (Cluster.lookupCommand t.cluster)
    with
  | error e => exact nomatch hans ▸ ha
  | ok listing =>
    rw [hans] at ha
    obtain rfl := Except.ok.inj ha
    obtain ⟨stdout, hr, ht⟩ := Machine.reply_of_answer hans
    exact ⟨stdout, listing, hr, ht, List.contains_iff_mem,
      .command hans, by simp⟩

theorem ran_of_ingressPort {container : String} {m m' : Machine}
    {d : List Event} {r : Except Failure Int}
    (hm : m.connection.connected = true)
    (hp : ((collaborators t).ingressPort container).silent.run m = ⟨d, m', r⟩) :
    Ran m d [] m' := by
  change (Machine.ingressPort container).silent.run m = _ at hp
  rw [Machine.run_silent_ingressPort hm] at hp
  obtain ⟨rfl, rfl, -⟩ := Report.mk.inj hp
  exact .nothing (List.forall_mem_singleton.mpr ⟨rfl, rfl⟩) rfl

theorem ran_of_create {port : Int} {mounts : List Mount} {m m' : Machine}
    {d : List Event} {u : Unit}
    (h : (Cluster.create t.cluster t.provider port mounts).silent.run m =
      ⟨d, m', .ok u⟩) :
    let c := Cluster.createCommand t.cluster t.provider port mounts
    ∃ stdout, m.shell.reply? c = some (.succeeds stdout) ∧ Ran m d [c] m' := by
  intro c
  obtain ⟨tree, n, text, hn, ha, rfl, rfl⟩ := Cluster.of_create_eq_ok _ _ h
  have hshell : n.shell = m.shell := hn ▸ rfl
  obtain ⟨stdout, hr, -⟩ := Machine.reply_of_answer ha
  rw [hshell] at hr
  have hdir : Ran m [] [] n := .nothing (fun e he => nomatch he) hshell
  exact ⟨stdout, hr, hdir.append (.command ha)⟩

/-- Provisioning that ended well has listed the clusters, and made one if it was
not listed. -/
theorem ran_of_course {port : Int} {specs : List String} {m m' : Machine}
    {d : List Event} {r : Except Failure Provisioning.Outcome}
    {o : Provisioning.Outcome} (hm : m.connection.connected = true)
    (h : Provisioning.Course (collaborators t) t.provider port specs m
      ⟨d, m', r⟩) (hr : ready r = .ok o) :
    ∃ stdout listing created,
      m.shell.reply? (Cluster.lookupCommand t.cluster) =
        some (.succeeds stdout) ∧
      stdout.read = .ok listing ∧
      Created t listing (m.shell.after (Cluster.lookupCommand t.cluster))
        created ∧
      Ran m d (Cluster.lookupCommand t.cluster :: created) m' := by
  cases h with
  | lookupFails hl =>
    rw [Provisioning.ready_settled] at hr
    cases hr
  | taken hl hf hi =>
    obtain ⟨stdout, listing, hreply, hread, hfound, hran, -⟩ := ran_of_lookup hl
    exact ⟨stdout, listing, [], hreply, hread, .found (hfound.mp hf), hran⟩
  | observed hl hf hi hp =>
    obtain ⟨stdout, listing, hreply, hread, hfound, hran, hc⟩ :=
      ran_of_lookup hl
    exact ⟨stdout, listing, [], hreply, hread, .found (hfound.mp hf),
      hran.append (ran_of_ingressPort (hc ▸ hm) hp)⟩
  | undetermined hl hf hi hp ht =>
    obtain ⟨stdout, listing, hreply, hread, hfound, hran, hc⟩ :=
      ran_of_lookup hl
    exact ⟨stdout, listing, [], hreply, hread, .found (hfound.mp hf),
      hran.append (ran_of_ingressPort (hc ▸ hm) hp)⟩
  | introspectionFails => cases hr
  | malformed => cases hr
  | portFails =>
    rw [Provisioning.ready_settled] at hr
    cases hr
  | createFails =>
    rw [Provisioning.ready_settled] at hr
    cases hr
  | created hl hf hs hp hcr =>
    obtain ⟨stdout, listing, hreply, hread, hfound, hran, -⟩ := ran_of_lookup hl
    obtain ⟨rfl, rfl⟩ := Machine.run_silent_tryPort_eq_ok hp
    obtain ⟨made, hmade, hcreated⟩ := ran_of_create hcr
    have hnot : t.provider.clusterName ∉ Cluster.listedNames listing := by
      rw [← hfound, hf]
      exact Bool.false_ne_true
    have hbind (n : Machine) : Ran n [.bind "localhost" port] [] n :=
      .nothing (List.forall_mem_singleton.mpr ⟨rfl, rfl⟩) rfl
    refine ⟨stdout, listing, _, hreply, hread,
      .made port _ made hnot (hran.shell ▸ hmade), ?_⟩
    exact hran.append ((hbind _).append hcreated)

theorem Created.succeeded {listing : String} {shell : Shell} {cs : List Command}
    (h : Created t listing shell cs) :
    ∀ x ∈ shell.dialogue cs, Succeeded x := by
  cases h with
  | found => exact nofun
  | made port mounts stdout _ hr =>
    exact List.forall_mem_singleton.mpr ⟨stdout, hr⟩

theorem Created.creates_iff {listing : String} {shell : Shell}
    {cs : List Command} (h : Created t listing shell cs) :
    (∃ x ∈ shell.dialogue cs, x.1.ran.createsCluster = true ∧ Succeeded x) ↔
      t.provider.clusterName ∉ Cluster.listedNames listing := by
  cases h with
  | found hl =>
    refine iff_of_false ?_ (not_not_intro hl)
    rintro ⟨x, hx, -⟩
    cases hx
  | made port mounts stdout hl hr =>
    exact iff_of_true ⟨_, List.mem_singleton_self _, rfl, stdout, hr⟩ hl

/-- No command that installs charts makes a cluster. -/
theorem createsCluster_of_plan {o : Options} {manifest : String} {c : Command}
    (h : c ∈ t.plan o manifest) : c.ran.createsCluster = false := by
  refine Event.createsCluster_of_program ?_
  have hc : c.ran.program? = some c.program := rfl
  rw [hc]
  rcases t.program_of_plan o h with hp | hp
  · rw [hp]
    decide
  · rw [hp]
    decide

theorem fst_mem_of_dialogue {shell : Shell} {cs : List Command}
    {x : Command × Option Reply} (h : x ∈ shell.dialogue cs) : x.1 ∈ cs := by
  have hx : x.1 ∈ (shell.dialogue cs).map Prod.fst := List.mem_map_of_mem h
  rwa [Shell.map_fst_dialogue] at hx

/-- No cluster is made by the commands for the charts that follow. -/
theorem Created.creates_iff_plan {listing manifest : String} {o : Options}
    {shell : Shell} {cs : List Command} (h : Created t listing shell cs)
    (rest : Shell) :
    (∃ x ∈ shell.dialogue cs ++ rest.dialogue (t.plan o manifest),
      x.1.ran.createsCluster = true ∧ Succeeded x) ↔
      t.provider.clusterName ∉ Cluster.listedNames listing := by
  rw [← h.creates_iff]
  constructor
  · rintro ⟨x, hx, hc, hs⟩
    rcases List.mem_append.mp hx with hx | hx
    · exact ⟨x, hx, hc, hs⟩
    · have hn := createsCluster_of_plan (fst_mem_of_dialogue hx)
      rw [hn] at hc
      cases hc
  · rintro ⟨x, hx, hcs⟩
    exact ⟨x, List.mem_append_left _ hx, hcs⟩

theorem installed_of_plan {o : Options} {manifest : String} {shell : Shell}
    (h : ∀ x ∈ shell.dialogue (t.plan o manifest), Succeeded x ∨
      t.NamespaceThere x) :
    ∃ before a b c, shell.dialogue (t.plan o manifest) = before ++
      [(t.nginxCommand, some (.succeeds a)),
        (t.platformCommand o, some (.succeeds b)),
        (t.ingressCommand o, some (.succeeds c))] := by
  have hplan : t.plan o manifest =
      (t.firstCommands ++ (t.credentialCommands o manifest ++
        o.secretFiles.map t.secretFileCommand)) ++
        [t.nginxCommand, t.platformCommand o, t.ingressCommand o] := by
    simp [Chart.Target.plan_eq, Chart.Target.lastCommands]
  rw [hplan, Shell.dialogue_append] at h ⊢
  generalize List.foldl Shell.after shell _ = rest at h ⊢
  have last {x : Command × Option Reply}
      (hx : x ∈ rest.dialogue [t.nginxCommand, t.platformCommand o,
        t.ingressCommand o]) :
      Succeeded x := by
    refine (h x (List.mem_append_right _ hx)).resolve_right fun hn => ?_
    exact t.ne_namespaceCommand_of_last
      (List.mem_append_right _ (fst_mem_of_dialogue hx)) hn.1
  obtain ⟨a, ha⟩ := last (.head _)
  obtain ⟨b, hb⟩ := last (.tail _ (.head _))
  obtain ⟨c, hc⟩ := last (.tail _ (.tail _ (.head _)))
  dsimp only at ha hb hc
  rw [Shell.dialogue, Shell.dialogue, Shell.dialogue,
    Shell.dialogue, ha, hb, hc]
  exact ⟨_, a, b, c, rfl⟩

/-- With the version, the cluster and the charts all is told of an installation
that returns. -/
theorem accomplished_of_runWith {cluster : Cluster.Config}
    {chart : Chart.Coordinates} {env : Settings.Environment} {request : Request}
    {s : Observed Machine} {o : Options}
    (h : ((runWith cluster chart env request).run s).outcome = .ok o) :
    ∃ commands, Accomplished ⟨cluster.provider, cluster, chart⟩ o s.world
      ((runWith cluster chart env request).run s).events commands := by
  let t : Chart.Target := ⟨cluster.provider, cluster, chart⟩
  obtain ⟨d, after, m', hd, hafter, hc⟩ := course_of_runWith h
  have hcommands :
      ((runWith cluster chart env request).run s).events.filter
        Event.isCommand = d.filter Event.isCommand := by
    rw [← filter_deeds Event.isMessage_of_isCommand, hd, List.filter_append,
      Event.filter_isCommand_of_requests hafter, List.append_nil]
  have hsub {e : Event} (he : e ∈ d) :
      e ∈ ((runWith cluster chart env request).run s).events := by
    have he : e ∈ deeds ((runWith cluster chart env request).run s).events := by
      rw [hd]
      exact List.mem_append_left _ he
    exact (mem_deeds.mp he).1
  cases hc with
  | @installed before provided installed m m'' _ v r outcome hv hp hr _ hi =>
    change Machine.version.silent.run _ = _ at hv
    obtain ⟨hasked, hconnects, info, hinfo⟩ := Machine.of_version_ok rfl hv
    have hm := Machine.state_of_version hv
    have hbefore : Ran s.world before [] m := by
      refine .nothing (fun e he => ?_) (hm ▸ rfl)
      obtain ⟨rfl, -⟩ := Report.mk.inj hv
      exact Machine.traced_requests.version _ e (mem_deeds.mp he).1
    obtain ⟨stdout, listing, created, hreply, hread, hcreated, hprovided⟩ :=
      ran_of_course (hm ▸ rfl) hp hr
    obtain ⟨manifest, hinstalled, hpassed⟩ := t.ran_of_install hi
    have hran := hbefore.append (hprovided.append hinstalled)
    let lookup := Cluster.lookupCommand cluster
    let plan := t.plan (Pipeline.optionsFor env request outcome.port) manifest
    have hlog : s.world.shell.dialogue (lookup :: created ++ plan) =
        (lookup, some (.succeeds stdout)) ::
          ((m.shell.after lookup).dialogue created ++
            m''.shell.dialogue plan) := by
      have hall := (hbefore.append hprovided).dialogue_append plan
      have hshell : s.world.shell = m.shell := hbefore.shell.symm
      rw [List.nil_append] at hall
      rw [hall, hshell, Shell.dialogue, hreply]
      rfl
    refine ⟨lookup :: created ++ plan,
      ⟨hsub (List.mem_append_left _ hasked), hconnects, info, hinfo⟩, ?_, ?_,
        ⟨_, _, rfl⟩, ?_, ?_⟩
    · rw [hcommands, hran.deeds]
      rfl
    · refine ⟨lookup, stdout, listing, Cluster.listedNames listing, _,
        hlog, rfl, hread, Cluster.listedNames_eq_iff.mp rfl, ?_⟩
      exact hcreated.creates_iff_plan _
    · obtain ⟨before, a, b, c, hlast⟩ := installed_of_plan hpassed
      rw [hlog, hlast]
      refine ⟨(lookup, some (.succeeds stdout)) ::
        ((m.shell.after lookup).dialogue created ++ before), t.nginxCommand,
        t.platformCommand (Pipeline.optionsFor env request outcome.port),
        t.ingressCommand (Pipeline.optionsFor env request outcome.port),
        a, b, c, ?_, ⟨_, rfl⟩, ⟨_, rfl⟩, ⟨_, rfl⟩, rfl⟩
      rw [List.cons_append, List.append_assoc]
    · intro x hx
      rw [hlog] at hx
      rcases List.mem_cons.mp hx with rfl | hx
      · exact .inl ⟨stdout, rfl⟩
      rcases List.mem_append.mp hx with hx | hx
      · exact .inl (hcreated.succeeded x hx)
      · exact hpassed x hx

end Installation

end SingleNode
