/-
# The directories that an installation makes

An installation makes directories in two places only: the data directory when it
creates a cluster, and the directory for migrated data, which is below it.  Each
stands behind checks that are spread over the workflow (`Creates`, `Migrates`),
and nothing is changed before they have passed.

Every collaborator is looked at once: all but two leave the file tree as it is,
and those two lay directories (`tree_create`, `tree_install`).  What that comes
to over a whole run is a walk over the courses of provisioning and of the
pipeline.  It holds for runs that fail, too, and a run that fails before or at
one of the checks, or that takes a cluster over and does not migrate, leaves
everything as it was (`Spared`).
-/
import SingleNode.Proofs.Chart.Installation
import SingleNode.Proofs.Cluster.Manager
import SingleNode.Proofs.Installation.Lifecycle
import SingleNode.Proofs.Machine.Connection
import SingleNode.Proofs.Machine.Migration

namespace SingleNode

open FileTree (Laid)
open Installation (Request collaborators)
open Provisioning (ready)

/-! ## What the collaborators leave of the file tree -/

namespace Machine

theorem tree_version (m : Machine) : (version.run m).state.tree = m.tree := by
  rw [run_version]
  rfl

theorem tree_ingressPort (container : String) (m : Machine) :
    ((ingressPort container).run m).state.tree = m.tree := by
  rw [run_ingressPort]
  rfl

theorem Exchanged.tree {kind : FaultClass} {m m' : Machine}
    {log : List Exchange} (h : Exchanged kind m log m') : m'.tree = m.tree := by
  induction h with
  | nil m => rfl
  | cons c _ ih => rw [ih, after_tree]

end Machine

namespace Chart.Target

variable (t : Target) (o : Installation.Options)

theorem tree_migrateIfAsked (m : Machine) :
    let m' := ((t.migrateIfAsked o).run m).state
    m'.tree = m.tree ∨
      o.migrate = true ∧ m.Found migrationVolume ∧
      m.tree.Laid t.migrationDir m'.tree := by
  rw [migrateIfAsked]
  cases o.migrate with
  | false => exact .inl rfl
  | true =>
    have hcopy := Machine.tree_extractVolume migrationVolume t.migrationDir m
    rw [if_pos rfl, migrate, Act.run_bind_ok (Act.run_emit _ m), Act.run_bind]
    generalize (Machine.extractVolume migrationVolume t.migrationDir).run
      m = r at hcopy
    rcases r with ⟨es, m', e | u⟩
    · exact hcopy.imp_right fun h => ⟨rfl, h⟩
    · exact hcopy.imp_right fun h => ⟨rfl, h⟩

/-- Installing the charts lays directories if data is to be migrated, the named
files are there and the volume was found, and else leaves the file tree as it
is. -/
theorem tree_install (m : Machine) :
    let m' := ((t.install o).run m).state
    m'.tree = m.tree ∨
      o.migrate = true ∧ missingFile? m o = none ∧ m.Found migrationVolume ∧
        m.tree.Laid t.migrationDir m'.tree := by
  cases hm : missingFile? m o with
  | some file =>
    rw [t.run_install_of_missing o hm]
    exact .inl rfl
  | none =>
    have hmigrate := t.tree_migrateIfAsked o m
    have hstate :
        ((t.install o).run m).state.tree =
          ((t.migrateIfAsked o).run m).state.tree := by
      rcases t.run_install_of_found o hm
        with ⟨e, -, -, hs, -⟩ | ⟨-, manifest, log, hf⟩
      · rw [hs]
        rfl
      · exact hf.exchanged.tree
    intro m'
    rw [show m'.tree = _ from hstate]
    exact hmigrate.imp_right fun ⟨ha, hfound, hl⟩ => ⟨ha, rfl, hfound, hl⟩

end Chart.Target

namespace Installation

variable {t : Chart.Target} {port : Int} {specs : List String} {m : Machine}

/-! ## What stands before the data directory -/

/-- The look-up tells whether there is a cluster. -/
def Listed (t : Chart.Target) (m : Machine) (found : Bool) : Prop :=
  ∃ h, ((Cluster.lookup t.cluster t.provider).run m).outcome = .ok h ∧
    h.found = found

/-- What has to be so on a machine for a cluster to be created: the look-up
finds none, all mount specs can be read and name both paths, and the port can be
taken. -/
structure Creates (t : Chart.Target) (port : Int) (specs : List String)
    (m : Machine) : Prop where
  absent : Listed t m false
  mounts : ∃ mounts, Mount.parseAll specs = .ok mounts ∧
    ∀ mount ∈ mounts, mount.hostPath ≠ "" ∧ mount.containerPath ≠ ""
  port : ((Machine.tryPort port).run m).outcome = .ok ()

section Calls

variable {n u : Machine} {d : List Event}

theorem of_lookup {r : Except Failure Cluster.Handle}
    (hl : ((collaborators t).lookup t.provider).silent.run m = ⟨d, n, r⟩) :
    n = m.after (Cluster.lookupCommand t.cluster) ∧
      ((Cluster.lookup t.cluster t.provider).run m).outcome = r := by
  have hstate :=
    congrArg Report.state (Cluster.run_silent_lookup t.cluster t.provider m)
  exact ⟨(congrArg Report.state hl).symm.trans hstate,
    congrArg Report.outcome hl⟩

theorem tree_of_lookup {r : Except Failure Cluster.Handle}
    (hl : ((collaborators t).lookup t.provider).silent.run m = ⟨d, n, r⟩) :
    n.tree = m.tree := by
  rw [(of_lookup hl).1, Machine.after_tree]

theorem of_tryPort {r : Except Failure Unit}
    (hp : ((collaborators t).tryPort port).silent.run n = ⟨d, u, r⟩) :
    u = n ∧ r = Machine.portAnswer n.busyPorts port := by
  change (Machine.tryPort port).silent.run n = _ at hp
  rw [Act.run_silent, Machine.run_tryPort] at hp
  obtain ⟨-, rfl, rfl⟩ := Report.mk.inj hp
  exact ⟨rfl, rfl⟩

theorem making_of_create {mounts : List Mount} {r : Except Failure Unit}
    (hc : ((collaborators t).create t.provider port mounts).silent.run
      n = ⟨d, u, r⟩) :
    Cluster.Making t.cluster t.provider port mounts n ⟨d, u, r⟩ := by
  have h := Cluster.run_silent_create t.cluster t.provider port mounts n
  rwa [show (Cluster.create t.cluster t.provider port mounts).silent.run n =
    _ from hc] at h

theorem creates_of_calls {h : Cluster.Handle} {mounts : List Mount}
    {d' : List Event}
    (hl : ((collaborators t).lookup t.provider).silent.run m = ⟨d, n, .ok h⟩)
    (hf : h.found = false) (hm : Mount.parseAll specs = .ok mounts)
    (hp : ((collaborators t).tryPort port).silent.run n = ⟨d', u, .ok ()⟩)
    (hcomplete : ∀ mount ∈ mounts, mount.isIncomplete = false) :
    Creates t port specs m := by
  refine ⟨⟨h, (of_lookup hl).2, hf⟩, ⟨mounts, hm, ?_⟩, ?_⟩
  · intro mount hmount
    exact Mount.isIncomplete_eq_false_iff.mp (hcomplete mount hmount)
  · -- the look-up in between does not change which ports are taken
    rw [Machine.run_tryPort, (of_tryPort hp).2, (of_lookup hl).1,
      Machine.after_busyPorts]

end Calls

/-- Provisioning lays the data directory if a cluster is to be created, and else
leaves the file tree as it is. -/
theorem tree_provisioning {r : Report Machine Provisioning.Outcome}
    (h : Provisioning.Course (collaborators t) t.provider port specs m r) :
    r.state.tree = m.tree ∨
      Creates t port specs m ∧ m.tree.Laid t.cluster.dataDir r.state.tree := by
  have inspected {n u : Machine} {d : List Event} {q : Except Failure Int}
      (hp : ((collaborators t).ingressPort t.provider.controlPlane).silent.run
        n = ⟨d, u, q⟩) :
      u.tree = n.tree :=
    (congrArg (·.state.tree) hp).symm.trans
      (Machine.tree_ingressPort t.provider.controlPlane n)
  have made {n u v : Machine} {d d' d'' : List Event} {h : Cluster.Handle}
      {mounts : List Mount} {q : Except Failure Unit}
      (hl : ((collaborators t).lookup t.provider).silent.run m = ⟨d, n, .ok h⟩)
      (hf : h.found = false)
      (hm : Mount.parseAll specs = .ok mounts)
      (hp : ((collaborators t).tryPort port).silent.run n = ⟨d', u, .ok ()⟩)
      (hc : ((collaborators t).create t.provider port mounts).silent.run u =
        ⟨d'', v, q⟩) :
      v.tree = m.tree ∨
        Creates t port specs m ∧ m.tree.Laid t.cluster.dataDir v.tree := by
    have hu : u.tree = m.tree := by
      rw [(of_tryPort hp).1, tree_of_lookup hl]
    rw [← hu]
    exact (making_of_create hc).tree.imp_right fun ⟨hcomplete, hlaid⟩ =>
      ⟨creates_of_calls hl hf hm hp hcomplete, hlaid⟩
  cases h with
  | lookupFails hl => exact .inl (tree_of_lookup hl)
  | taken hl => exact .inl (tree_of_lookup hl)
  | observed hl _ _ hp => exact .inl ((inspected hp).trans (tree_of_lookup hl))
  | undetermined hl _ _ hp =>
    exact .inl ((inspected hp).trans (tree_of_lookup hl))
  | introspectionFails hl _ _ hp =>
    exact .inl ((inspected hp).trans (tree_of_lookup hl))
  | malformed hl => exact .inl (tree_of_lookup hl)
  | portFails hl _ _ hp =>
    rw [(of_tryPort hp).1]
    exact .inl (tree_of_lookup hl)
  | createFails hl hf hm hp hc => exact made hl hf hm hp hc
  | created hl hf hm hp hc => exact made hl hf hm hp hc

/-- Provisioning ends well only if a cluster was found or one may be created. -/
theorem found_or_creates {r : Report Machine Provisioning.Outcome}
    {o : Provisioning.Outcome}
    (h : Provisioning.Course (collaborators t) t.provider port specs m r)
    (hr : ready r.outcome = .ok o) :
    Listed t m true ∨ Creates t port specs m := by
  cases h with
  | lookupFails => exact nomatch (Provisioning.ready_settled _ _).symm.trans hr
  | taken hl hf => exact .inl ⟨_, (of_lookup hl).2, hf⟩
  | observed hl hf => exact .inl ⟨_, (of_lookup hl).2, hf⟩
  | undetermined hl hf => exact .inl ⟨_, (of_lookup hl).2, hf⟩
  | introspectionFails hl hf => exact .inl ⟨_, (of_lookup hl).2, hf⟩
  | malformed => exact nomatch hr
  | portFails => exact nomatch (Provisioning.ready_settled _ _).symm.trans hr
  | createFails => exact nomatch (Provisioning.ready_settled _ _).symm.trans hr
  | created hl hf hm hp hc =>
    exact .inr
      (creates_of_calls hl hf hm hp ((making_of_create hc).complete_of_ok rfl))

/-! ## What stands before the migration -/

/-- What has to be so for data to be migrated: it was asked for, provisioning
ended well and the options could be built, the files that they name are in the
tree, and the engine knows the volume.  The machine is the one before
provisioning, and the tree the one after it. -/
structure Migrates (t : Chart.Target) (env : Settings.Environment)
    (request : Request) (m : Machine) (tree : FileTree) : Prop where
  asked : request.migrate = true
  provisioned : ∃ outcome options,
    ((Provisioning.run (collaborators t) t.provider request.port
      request.volumes).run m).outcome =
        .ok outcome ∧ outcome.toExcept = .ok () ∧
      (∀ n : Machine, ((Options.build env request outcome.port).run n).outcome =
        .ok options) ∧
      ∀ file ∈ Chart.Target.namedFiles options,
        tree.isFile (HostPath.ofString file) = .ok true
  volume : Machine.volumeOf m.engine "airbyte_db" = .ok ()

/-- A run that fails at one of the checks before a cluster is created, or that
takes a cluster over and does not migrate. -/
inductive Spared (t : Chart.Target) (request : Request) (m : Machine) : Prop
  | version {e : Failure} : (Machine.version.run m).outcome = .error e →
      Spared t request m
  | lookup {e : Failure} :
      ((Cluster.lookup t.cluster t.provider).run
        (Machine.version.run m).state).outcome = .error e →
      Spared t request m
  | malformed {f : Fault} :
      Listed t (Machine.version.run m).state false →
      Mount.parseAll request.volumes = .error f →
      Spared t request m
  | incomplete {mounts : List Mount} {mount : Mount} :
      Listed t (Machine.version.run m).state false →
      Mount.parseAll request.volumes = .ok mounts →
      mount ∈ mounts → mount.hostPath = "" ∨ mount.containerPath = "" →
      Spared t request m
  | port {e : Failure} :
      Listed t (Machine.version.run m).state false →
      ((Machine.tryPort request.port).run
        (Machine.version.run m).state).outcome = .error e →
      Spared t request m
  | taken : Listed t (Machine.version.run m).state true →
      request.migrate = false → Spared t request m

theorem Listed.unique {b c : Bool} (h : Listed t m b)
    (h' : Listed t m c) : b = c := by
  obtain ⟨x, hx, rfl⟩ := h
  obtain ⟨y, hy, rfl⟩ := h'
  rw [Except.ok.inj (hx.symm.trans hy)]

section Spared

variable {request : Request} {v : EngineVersion}

theorem Spared.not_creates (h : Spared t request m)
    (hv : (Machine.version.run m).outcome = .ok v) :
    ¬Creates t request.port request.volumes (Machine.version.run m).state := by
  rintro ⟨habsent, ⟨mounts, hmounts, hpaths⟩, hport⟩
  cases h with
  | version he => exact nomatch he.symm.trans hv
  | lookup he =>
    obtain ⟨x, hx, -⟩ := habsent
    exact nomatch he.symm.trans hx
  | malformed _ hf => exact nomatch hf.symm.trans hmounts
  | incomplete _ hm hmem hempty =>
    obtain rfl := Except.ok.inj (hm.symm.trans hmounts)
    obtain ⟨hhost, hcontainer⟩ := hpaths _ hmem
    rcases hempty with hempty | hempty
    · exact hhost hempty
    · exact hcontainer hempty
  | port _ he => exact nomatch he.symm.trans hport
  | taken hfound => exact nomatch hfound.unique habsent

theorem Spared.migrate_eq_false (h : Spared t request m)
    (hv : (Machine.version.run m).outcome = .ok v)
    (hfound : Listed t (Machine.version.run m).state true) :
    request.migrate = false := by
  cases h with
  | version he => exact nomatch he.symm.trans hv
  | lookup he =>
    obtain ⟨x, hx, -⟩ := hfound
    exact nomatch he.symm.trans hx
  | malformed habsent => exact nomatch hfound.unique habsent
  | incomplete habsent => exact nomatch hfound.unique habsent
  | port habsent => exact nomatch hfound.unique habsent
  | taken _ hno => exact hno

end Spared

/-! ## The whole run -/

/-- What becomes of the file tree of a machine: nothing, or the engine told its
version and directories were laid, first the data directory for a cluster that
was created and then the directory for migrated data.  A run that is spared
leaves it as it was. -/
structure Confined (t : Chart.Target) (env : Settings.Environment)
    (request : Request) (m : Machine) (tree : FileTree) : Prop where
  laid : tree = m.tree ∨
    (∃ v, (Machine.version.run m).outcome = .ok v) ∧
    ∃ provisioned,
      (provisioned = m.tree ∨
        Creates t request.port request.volumes (Machine.version.run m).state ∧
          m.tree.Laid t.cluster.dataDir provisioned) ∧
      (tree = provisioned ∨
        Migrates t env request (Machine.version.run m).state provisioned ∧
          provisioned.Laid
            (t.cluster.dataDir.append ["airbyte-volume-db", "pgdata"]) tree)
  spared : Spared t request m → tree = m.tree

section Confined

variable {env : Settings.Environment} {request : Request}

theorem confined_refl : Confined t env request m m.tree :=
  ⟨.inl rfl, fun _ => rfl⟩

/-- Provisioning and the installation of the charts keep within bounds, each on
its own, and data is migrated only where there is a cluster. -/
theorem confined_of_parts {v : EngineVersion} {provisioned tree : FileTree}
    (hv : (Machine.version.run m).outcome = .ok v)
    (hp : provisioned = m.tree ∨
      Creates t request.port request.volumes (Machine.version.run m).state ∧
        m.tree.Laid t.cluster.dataDir provisioned)
    (hi : tree = provisioned ∨
      (Listed t (Machine.version.run m).state true ∨
          Creates t request.port request.volumes
            (Machine.version.run m).state) ∧
        Migrates t env request (Machine.version.run m).state provisioned ∧
        provisioned.Laid t.migrationDir tree) : Confined t env
          request m tree := by
  refine ⟨.inr ⟨⟨v, hv⟩, provisioned, hp, hi.imp_right And.right⟩, ?_⟩
  intro hs
  have hprovisioned : provisioned = m.tree := by
    rcases hp with hp | ⟨hc, -⟩
    · exact hp
    · exact absurd hc (hs.not_creates hv)
  rcases hi with hi | ⟨hfound | hc, hm, -⟩
  · exact hi.trans hprovisioned
  · exact nomatch (hs.migrate_eq_false hv hfound).symm.trans hm.asked
  · exact absurd hc (hs.not_creates hv)

theorem isFile_of_not_missing {o : Options}
    (h : Chart.Target.missingFile? m o = none) :
    ∀ file ∈ Chart.Target.namedFiles o, m.tree.isFile (HostPath.ofString file) =
      .ok true := by
  intro file hfile
  have hf : m.hasFile (HostPath.ofString file) = true := by
    simpa using List.find?_eq_none.mp h file hfile
  rw [Machine.hasFile, Bool.and_eq_true] at hf
  obtain ⟨-, hf⟩ := hf
  split at hf
  · next hi => rw [hi, hf]
  · exact absurd hf Bool.false_ne_true

theorem outcome_build {env : Settings.Environment}
    (hc : (Registry.merged env request).isComplete = true) (port : Int)
    (n : Machine) :
    ((Options.build env request port).run n).outcome =
      .ok (Pipeline.optionsFor env request port) := by
  have h := congrArg (fun x : Act Machine Options => (x.run n).outcome)
    (Options.silent_build env request port)
  rw [hc] at h
  exact h

theorem engine_of_course {r : Report Machine Provisioning.Outcome}
    (h : Provisioning.Course (collaborators t) t.provider port specs m r) :
    r.state.engine = m.engine := by
  have hconnect : Machine.connect.Keeps fun n => n.engine = m.engine := by
    intro n hn
    rw [Machine.state_connect]
    exact hn
  have hkeeps : Machine.LastingThroughout fun n => n.engine = m.engine :=
    ⟨⟨fun _ _ => id, hconnect⟩, fun _ _ => id⟩
  exact h.traces (Act.tracing_keeps _) (fun _ _ _ => id)
    (hkeeps.preserves t).traces rfl

theorem migrates_of_install {d : List Event} {n u x : Machine}
    {o : Provisioning.Outcome} {r : Except Failure Provisioning.Outcome}
    {d' : List Event} {q : Except Failure Unit}
    (hp : Provisioning.Course (collaborators t) t.provider request.port
      request.volumes n ⟨d, u, r⟩) (hr : ready r = .ok o)
    (hc : (Registry.merged env request).isComplete = true)
    (hi : ((collaborators t).install
      (Pipeline.optionsFor env request o.port)).silent.run u =
      ⟨d', x, q⟩) :
    x.tree = u.tree ∨
      Migrates t env request n u.tree ∧ u.tree.Laid t.migrationDir x.tree := by
  have hx :
      ((t.install (Pipeline.optionsFor env request o.port)).run u).state = x :=
    congrArg Report.state hi
  have htree := t.tree_install (Pipeline.optionsFor env request o.port) u
  rw [hx] at htree
  refine htree.imp_right fun ⟨hasked, hfiles, hfound, hlaid⟩ =>
    ⟨⟨hasked, ?_, ?_⟩, hlaid⟩
  · obtain ⟨rfl, hready⟩ := Provisioning.of_ready hr
    have ho : _ = Except.ok o := (congrArg Report.outcome hp.eq_run).symm
    exact ⟨o, _, ho, hready, outcome_build hc o.port,
      isFile_of_not_missing hfiles⟩
  · rw [← engine_of_course hp]
    exact hfound.2

theorem confined_of_course {r : Report Machine Options}
    (h : Pipeline.Course (collaborators t) t.provider env request m r) :
    Confined t env request m r.state.tree := by
  have told {d : List Event} {n : Machine} {q : Except Failure EngineVersion}
      (hv : (collaborators t).version.silent.run m = ⟨d, n, q⟩) :
      n = (Machine.version.run m).state ∧ (Machine.version.run m).outcome = q :=
    ⟨(congrArg Report.state hv).symm, congrArg Report.outcome hv⟩
  -- what comes after the version starts from the tree that there was before
  have provisioned {u : Machine} {d : List Event}
      {q : Except Failure Provisioning.Outcome}
      (hp : Provisioning.Course (collaborators t) t.provider request.port
        request.volumes (Machine.version.run m).state ⟨d, u, q⟩) :
      u.tree = m.tree ∨
        Creates t request.port request.volumes (Machine.version.run m).state ∧
          m.tree.Laid t.cluster.dataDir u.tree := by
    have h := tree_provisioning hp
    rwa [Machine.tree_version] at h
  have installed {u x : Machine} {d d' : List Event}
      {q : Except Failure Provisioning.Outcome} {o : Provisioning.Outcome}
      {v : EngineVersion} {q' : Except Failure Unit}
      (hv : (Machine.version.run m).outcome = .ok v)
      (hp : Provisioning.Course (collaborators t) t.provider request.port
        request.volumes (Machine.version.run m).state ⟨d, u, q⟩)
      (hr : ready q = .ok o)
      (hc : (Registry.merged env request).isComplete = true)
      (hi : ((collaborators t).install
        (Pipeline.optionsFor env request o.port)).silent.run u =
          ⟨d', x, q'⟩) :
      Confined t env request m x.tree := by
    refine confined_of_parts hv (provisioned hp) ?_
    exact (migrates_of_install hp hr hc hi).imp_right fun h =>
      ⟨found_or_creates hp hr, h⟩
  cases h with
  | engineFails hv =>
    obtain ⟨rfl, -⟩ := told hv
    rw [Machine.tree_version]
    exact confined_refl
  | provisioningFails hv hp =>
    obtain ⟨rfl, ho⟩ := told hv
    exact confined_of_parts ho (provisioned hp) (.inl rfl)
  | incomplete hv hp =>
    obtain ⟨rfl, ho⟩ := told hv
    exact confined_of_parts ho (provisioned hp) (.inl rfl)
  | installFails hv hp hr hc hi =>
    obtain ⟨rfl, ho⟩ := told hv
    exact installed ho hp hr hc hi
  | installed hv hp hr hc hi =>
    obtain ⟨rfl, ho⟩ := told hv
    exact installed ho hp hr hc hi

end Confined

/-- An installation keeps within bounds: whatever it comes to, the file tree is
what it was but for the directories that it is meant to make. -/
theorem tree_run (clusterArgs chartArgs : Option Settings.Arguments)
    (env : Settings.Environment) (request : Request) (s : Observed Machine) :
    let r := (run clusterArgs chartArgs env request).run s
    match target clusterArgs chartArgs env with
    | .error _ => r.state.world.tree = s.world.tree
    | .ok t =>
      Confined t env request (begin t.cluster.commandTimeout s).world
        r.state.world.tree := by
  rw [run_eq]
  cases target clusterArgs chartArgs env with
  | error invalid => rfl
  | ok t =>
    rw [loaded_ok, pure_bind, runOn]
    dsimp only
    rw [run_closing]
    obtain ⟨q, hcourse, -⟩ :=
      Pipeline.run_course (collaborators t) t.provider env request
      (begin t.cluster.commandTimeout s)
    exact confined_of_course hcourse

end Installation

end SingleNode
