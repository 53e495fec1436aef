/-
# What an installation of the charts does

The whole of it, for every machine (`install_follows_plan`).  If a named file is
not there nothing is done at all.  Else the data is migrated if that is wanted,
which takes no command, and then the commands of the plan are run, up to the
first that fails; the page of the platform is opened at the end of a plan that
was carried out.

Files that are not there are a fault of the installation, with the path in it.
That does not hold for a path that the system refuses because it is too long
(`install_long_path`).
-/
import SingleNode.Proofs.Chart.Plan
import SingleNode.Proofs.Machine.Traced

namespace SingleNode.Chart.Target

open Installation (Options)

variable (t : Target) (o : Options)

theorem only_migrateIfAsked : (t.migrateIfAsked o).Only Event.IsRequest :=
  Machine.traced_requests.migrateIfAsked t o

theorem run_install_of_missing {m : Machine} {file : String}
    (h : missingFile? m o = some file) :
    (t.install o).run m = ⟨[], m, .error (fileFailure m file)⟩ := by
  have hr := run_requireFiles o m
  rw [h] at hr
  exact Act.run_bind_error hr

/-- The deed of opening the page, if the commands ended with the given
outcome. -/
def pageDeeds (r : Except Failure Unit) : List Event :=
  match r with
  | .ok _ => if o.noBrowser then [] else [.browser o.url]
  | .error _ => []

theorem run_silent_openPage (m : Machine) :
    (openPage o).silent.run m = ⟨pageDeeds o (.ok ()), m, .ok ()⟩ := by
  simp only [openPage, pageDeeds]
  cases o.noBrowser <;> rfl

/-- A report in which the commands of the plan follow the given deeds. -/
structure Followed (before : List Event) (m : Machine) (manifest : String)
    (log : List Machine.Exchange) (r : Report Machine Unit) : Prop where
  /-- The commands begin the plan, and go on until one fails. -/
  follows :
    Follows Machine.Exchange.command (Machine.Exchange.passes t.tolerated)
    (t.plan o manifest) log
  /-- The document with the credentials is what the dry run wrote. -/
  wrote : t.Wrote o manifest log
  /-- The machine was asked for each command once. -/
  exchanged : Machine.Exchanged .install m log r.state
  /-- Nothing else is done, but the page is opened at the end of the plan. -/
  deeds :
    deeds r.events = before ++
    (log.map Machine.Exchange.deed ++ pageDeeds o r.outcome)
  /-- The first failure that counts is passed on. -/
  outcome : r.outcome = Machine.verdict t.tolerated log

variable {t o}

theorem Followed.of_carried {m : Machine} {manifest : String}
    {log : List Machine.Exchange}
    (h : Machine.Carried t.tolerated .install m (t.plan o manifest) log
      ((t.commands o).silent.run m)) (hw : t.Wrote o manifest log) {r :
      Report Machine Unit}
    {before : List Event}
    (hr : let q := ((t.commands o).silent >>= fun _ =>
      (openPage o).silent).run m
      SingleNode.deeds r.events = before ++ q.events ∧ r.state = q.state ∧
      r.outcome = q.outcome) :
    t.Followed o before m manifest log r := by
  obtain ⟨he, hs, ho⟩ := hr
  obtain ⟨hce, hco, hcx, hcf⟩ := h
  simp only [Act.run_bind] at he hs ho
  rcases hq : (t.commands o).silent.run m with ⟨es, m', e | u⟩
  · simp only [hq] at he hs ho hce hco hcx
    refine ⟨hcf, hw, hs ▸ hcx, ?_, ho.trans hco⟩
    rw [he, ho, hce, pageDeeds, List.append_nil]
  · simp only [hq, run_silent_openPage] at he hs ho hce hco hcx
    refine ⟨hcf, hw, hs ▸ hcx, ?_, ho.trans hco⟩
    rw [he, ho, hce]

variable (t o)

/-- An installation whose files are there migrates first and then follows the
plan. -/
theorem run_install_of_found {m : Machine} (h : missingFile? m o = none) :
    let r := (t.install o).run m
    let d := (t.migrateIfAsked o).silent.run m
    (∃ e, d.outcome = .error e ∧ deeds r.events = d.events ∧ r.state = d.state ∧
        r.outcome = .error e) ∨
      (d.outcome = .ok () ∧
        ∃ manifest log, t.Followed o d.events d.state manifest log r) := by
  have hr := run_requireFiles o m
  rw [h] at hr
  have hi :
      (t.install o).silent.run m = ((t.migrateIfAsked o).silent >>= fun _ =>
      (t.commands o).silent >>= fun _ => (openPage o).silent).run m := by
    rw [silent_install, Act.run_bind, Act.run_silent, hr]
    rfl
  rw [Act.run_silent, Act.run_bind] at hi
  rcases hd : (t.migrateIfAsked o).silent.run m with ⟨ds, m', e | u⟩
  · simp only [hd, Report.mk.injEq] at hi
    exact .inl ⟨e, rfl, hi⟩
  · simp only [hd, Report.mk.injEq] at hi
    obtain ⟨manifest, log, hc, hw⟩ := t.carried_commands o m'
    exact .inr ⟨rfl, manifest, log, .of_carried hc hw hi⟩

/-- An installation does nothing if a named file is not there, and else it
migrates and follows the plan.  Files that are not there are a fault of the
installation except for paths that the system refuses. -/
theorem install_follows_plan (m : Machine) :
    let r := (t.install o).run m
    let d := (t.migrateIfAsked o).silent.run m
    (∀ file, missingFile? m o = some file →
      r = ⟨[], m, .error (fileFailure m file)⟩ ∧
        (fileFailure m file =
          .ofFault .install ("file " ++ file ++ " does not exist") ↔
          m.refusesPath (HostPath.ofString file) = false)) ∧
    (missingFile? m o = none →
      (∀ e ∈ d.events, e.IsRequest) ∧
        ((∃ e, d.outcome = .error e ∧ deeds r.events = d.events ∧
            r.state = d.state ∧ r.outcome = .error e) ∨
          (d.outcome = .ok () ∧
            ∃ manifest log,
              t.Followed o d.events d.state manifest log r))) := by
  refine ⟨fun file h => ⟨t.run_install_of_missing o h, ?_⟩, fun h =>
    ⟨?_, t.run_install_of_found o h⟩⟩
  · cases hp : m.refusesPath (HostPath.ofString file) with
    | true => simp [fileFailure, hp, Failure.ofFault]
    | false => simp [fileFailure, hp]
  · intro e he
    exact t.only_migrateIfAsked o m e (mem_deeds.mp he).1

/-! ## Installations that succeed -/

/-- A command of one of the two tools that reach the cluster. -/
inductive OnCluster : Machine.Command → Prop
  | helm (args : List String) : OnCluster (t.helm args)
  | kubectl (args : List String) (input : Option String) :
      OnCluster (t.kubectl args input)

theorem onCluster_of_plan {manifest : String} {c : Machine.Command}
    (h : c ∈ t.plan o manifest) :
    t.OnCluster c := by
  have all : ∀ c ∈ t.plan o manifest, t.OnCluster c := by
    simp only [plan, List.forall_mem_append, List.forall_mem_cons,
      List.forall_mem_map]
    cases o.registry.configured <;> simp [OnCluster.helm, OnCluster.kubectl]
  exact all c h

theorem program_of_plan {manifest : String} {c : Machine.Command}
    (h : c ∈ t.plan o manifest) :
    c.program = "helm" ∨ c.program = "kubectl" := by
  cases t.onCluster_of_plan o h with
  | helm args => exact .inl rfl
  | kubectl args input => exact .inr rfl

variable {t o}

theorem Followed.suffix {before : List Event} {m : Machine} {manifest : String}
    {log : List Machine.Exchange} {r : Report Machine Unit} {u : Unit}
    (h : t.Followed o before m manifest log r) (hr : r.outcome = .ok u) :
    [(t.platformCommand o).ran, (t.ingressCommand o).ran]
      <:+ log.map Machine.Exchange.deed := by
  have hp := (Machine.verdict_eq_ok_iff _).mp (h.outcome.symm.trans hr)
  have hplan :
      t.plan o manifest =
        (t.firstCommands ++ (t.credentialCommands o manifest ++
      (o.secretFiles.map t.secretFileCommand ++ [t.nginxCommand]))) ++
        [t.platformCommand o, t.ingressCommand o] := by
    simp [plan_eq, lastCommands]
  obtain ⟨first, last, rfl, -, hl⟩ :=
    List.map_eq_append_iff.mp ((h.follows.map_eq hp).trans hplan)
  -- a command that passed was run, unless it is that for the namespace, which
  -- is not among the last
  have hran : ∀ x ∈ last, x.deed = x.command.ran := by
    intro x hx
    have hc : x.command ∈ t.lastCommands o := by
      have hxc := List.mem_map_of_mem (f := Machine.Exchange.command) hx
      rw [hl] at hxc
      exact List.mem_append_right _ (List.mem_cons_of_mem _ hxc)
    have hx := List.mem_append_right first hx
    exact h.exchanged.deed_of_passes hx (hp x hx)
      (t.tolerated_eq_false (t.ne_namespaceCommand_of_last hc))
  have hlast : last.map Machine.Exchange.deed =
      [(t.platformCommand o).ran, (t.ingressCommand o).ran] := by
    rw [List.map_congr_left hran, ← Function.comp_def, ← List.map_map, hl]
    rfl
  rw [List.map_append, hlast]
  exact List.suffix_append _ _

variable (t o)

/-- If it succeeds, the last commands were those for the platform and for its
ingress, and the page of the platform was opened unless that was not wanted. -/
theorem commands_of_install {m m' : Machine} {d : List Event} {u : Unit}
    (h : (t.install o).silent.run m = ⟨d, m', .ok u⟩) :
    [(t.platformCommand o).ran, (t.ingressCommand o).ran]
      <:+ d.filter Event.isCommand ∧
      d.filter Event.isBrowser =
        (if o.noBrowser then [] else [.browser o.url]) ∧
      ∀ e ∈ d, e.program? ≠ some "kind" := by
  rw [Act.run_silent] at h
  obtain ⟨hd, -, hr⟩ := Report.mk.inj h
  cases hm : missingFile? m o with
  | some file =>
    rw [t.run_install_of_missing o hm] at hr
    exact nomatch hr
  | none =>
    rcases t.run_install_of_found o hm
      with ⟨e, -, -, -, he⟩ | ⟨-, manifest, log, hf⟩
    · exact nomatch he.symm.trans hr
    · have hq : ∀ e ∈ ((t.migrateIfAsked o).silent.run m).events, e.IsRequest :=
        fun e he =>
        t.only_migrateIfAsked o m e (mem_deeds.mp he).1
      have hp :
          pageDeeds o (.ok u) = if o.noBrowser then [] else [.browser o.url] :=
        rfl
      rw [← hd, hf.deeds, hr, hp]
      simp only [List.filter_append, Event.filter_isCommand_of_requests hq,
        Event.filter_isBrowser_of_requests hq, hf.exchanged.filter_isCommand,
        hf.exchanged.filter_isBrowser, List.nil_append]
      refine ⟨?_, ?_, ?_⟩
      · have hs := hf.suffix hr
        cases o.noBrowser <;> simpa [Event.isCommand] using hs
      · cases o.noBrowser <;> rfl
      · intro e he
        rcases List.mem_append.mp he with he | he
        · rw [(hq e he).program?]
          exact nofun
        rcases List.mem_append.mp he with he | he
        · obtain ⟨x, hx, rfl⟩ := List.mem_map.mp he
          obtain ⟨n, hn⟩ := hf.exchanged.exists_attempt hx
          have hc :=
            t.program_of_plan o
            (hf.follows.isPrefix.subset (List.mem_map_of_mem hx))
          rw [hn, Machine.program?_attempt]
          rcases hc with hc | hc <;> simp [hc]
        · cases hb : o.noBrowser <;> simp_all [Event.program?]

theorem utf8ByteSize_replicate (n : Nat) (c : Char) :
    (String.ofList (List.replicate n c)).utf8ByteSize = n * c.utf8Size := by
  induction n with
  | zero => simp
  | succ n ih =>
    rw [List.replicate_succ, String.ofList_cons, String.utf8ByteSize_append,
      String.utf8ByteSize_singleton, ih, Nat.succ_mul, Nat.add_comm]

/-- A path with one part that is a byte too long. -/
def longPath : String := String.ofList (List.replicate 256 'x')

def longOptions : Options where
  chartVersion := ""
  valuesFile := longPath
  secretFiles := []
  migrate := false
  host := "localhost"
  port := 8000
  registry := ⟨Registry.defaultServer, "", "", ""⟩

/-- A machine with an empty directory to work in. -/
def emptyMachine : Machine := { tree := .empty ["work"] }

def longRun : Report Machine Unit :=
  (install ⟨⟨.kind, Cluster.defaultName⟩, .default "/root", .default⟩
    longOptions).run emptyMachine

theorem utf8ByteSize_longPath : longPath.utf8ByteSize = 256 := by
  have hx : 'x'.utf8Size = 1 := by decide
  calc longPath.utf8ByteSize = 256 * 'x'.utf8Size :=
    utf8ByteSize_replicate 256 'x'
    _ = 256 := by rw [hx, Nat.mul_one]

theorem notMem_longPath {c : Char} (h : c ≠ 'x') : c ∉ List.replicate 256 'x' :=
  fun hc => h (List.eq_of_mem_replicate hc)

theorem ofString_longPath : HostPath.ofString longPath = ⟨"", [longPath]⟩ := by
  have length_ne {cs : List Char} (hc : cs.length ≠ 256) :
      List.replicate 256 'x' ≠ cs := by
    intro h
    exact hc (h ▸ List.length_replicate)
  exact HostPath.ofString_part (notMem_longPath (by decide))
    (length_ne (by decide))
    (length_ne (by decide))

theorem refusesPath_longPath :
    emptyMachine.refusesPath (HostPath.ofString longPath) = true := by
  refine Machine.refusesPath_of_long ?_ (notMem_longPath (by decide))
    (notMem_longPath (by decide)) ?_
  · decide +kernel
  · exact Nat.lt_of_lt_of_eq (by decide) utf8ByteSize_longPath.symm

/-- The path is missed, and the failure is one of the system and no fault of the
installation. -/
theorem install_long_path :
    missingFile? emptyMachine longOptions = some longPath ∧
      longRun = ⟨[], emptyMachine, .error (.file .nameTooLong longPath)⟩ ∧
      longRun.outcome ≠
        .error (.ofFault .install
          ("file " ++ longPath ++ " does not exist")) := by
  have hne : longPath ≠ "" := by
    intro h
    have hs := utf8ByteSize_longPath
    rw [h] at hs
    exact absurd hs (by decide)
  have hn : namedFiles longOptions = [longPath] := by
    simp only [namedFiles, longOptions, hne, if_false, List.append_nil]
  have hm : missingFile? emptyMachine longOptions = some longPath := by
    rw [missingFile?, hn, List.find?_cons_of_pos]
    rw [emptyMachine.hasFile_of_refusesPath refusesPath_longPath,
      Bool.not_false]
  have hrun :
      longRun = ⟨[], emptyMachine, .error (.file .nameTooLong longPath)⟩ := by
    rw [longRun, run_install_of_missing _ _ hm, fileFailure,
      if_pos refusesPath_longPath, ofString_longPath, HostPath.toString_part]
  exact ⟨hm, hrun, by rw [hrun]; simp [Failure.ofFault]⟩

end SingleNode.Chart.Target
