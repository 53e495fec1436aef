/-
# The plan of an installation

The commands that install the charts, in order, as a list (`Target.plan`).  The
list is fixed by the target and the options, but for one thing: the document
that stores the registry credentials is the output of an earlier command.

Running the plan means running its commands until one fails; only a namespace
that is there already is tolerated.  That is all that the installation does once
the files were found and the data migrated, except for opening the browser at
the end (`silent_install`).
-/
import SingleNode.Proofs.Chart.Files
import SingleNode.Proofs.Machine.Command

namespace SingleNode.Chart.Target

open Installation (Options)

variable (t : Target)

/-- The values that the chart is told on top of its own. -/
def settings (o : Options) : List String :=
  ["global.auth.enabled=true", "global.airbyteUrl=" ++ o.url] ++
    (if
      o.registry.configured then ["global.imagePullSecrets[0].name=docker-auth"]
      else []) ++
    (if o.lowResourceMode then
      ["global.jobs.resources.requests.cpu=0",
        "global.jobs.resources.requests.memory=0"]
    else []) ++
    (if o.insecureCookies then ["global.auth.cookieSecureSetting=false"]
      else [])

/-- How long a chart may take, as its tool is told. -/
def deadline : String := toString t.cluster.commandTimeout ++ "s"

/-- All commands, in order, if the dry run writes the given document. -/
def plan (o : Options) (manifest : String) : List Machine.Command :=
  let c := t.chart
  [t.helm ["repo", "add", c.repoName, c.repoUrl, "--force-update"],
    t.helm ["repo", "add", c.nginxRepoName, c.nginxRepoUrl, "--force-update"],
    t.helm ["repo", "update"],
    t.kubectl ["create", "namespace", c.namespaceName]] ++
  (if o.registry.configured then
    [t.kubectl ["create", "secret", "docker-registry", "docker-auth", "-n",
      c.namespaceName,
      "--docker-server", o.registry.server, "--docker-username",
        o.registry.username,
      "--docker-password", o.registry.password, "--docker-email",
        o.registry.email,
      "--dry-run=client", "-o", "yaml"],
    t.kubectl ["apply", "-f", "-"] (some manifest)]
  else []) ++
  o.secretFiles.map
    (fun file => t.kubectl ["apply", "-n", c.namespaceName, "-f", file]) ++
  [t.helm ["upgrade", "--install", c.nginxRelease, c.nginxChart, "-n",
    c.nginxNamespace,
      "--create-namespace", "--set", "controller.hostPort.enabled=true",
      "--set", "controller.service.type=NodePort",
      "--set-string", "controller.nodeSelector.ingress-ready=true",
      "--wait", "--timeout", t.deadline],
    t.helm (["upgrade", "--install", c.release, c.chart, "-n", c.namespaceName,
      "--wait", "--timeout", t.deadline] ++
      (if o.chartVersion ≠ "" then ["--version", o.chartVersion] else []) ++
      (if o.valuesFile ≠ "" then ["-f", o.valuesFile] else []) ++
      (settings o).flatMap fun value => ["--set", value]),
    t.kubectl ["apply", "-f", "-"] (some (ingressText o c))]

/-- The commands before the credentials. -/
def firstCommands : List Machine.Command :=
  t.repoCommands ++ [t.namespaceCommand]

/-- The commands that store credentials, given what the first of them writes. -/
def credentialCommands (o : Options) (manifest : String) :
    List Machine.Command :=
  if o.registry.configured then [t.secretCommand o.registry,
    t.applyCommand manifest] else []

def lastCommands (o : Options) : List Machine.Command :=
  o.secretFiles.map t.secretFileCommand ++
    [t.nginxCommand, t.platformCommand o, t.ingressCommand o]

theorem overrides_eq (o : Options) : overrides o = settings o := by
  simp only [overrides, settings]
  cases o.registry.configured <;> cases o.lowResourceMode <;>
    cases o.insecureCookies <;>
    simp [pullSecret]

/-- The plan by its parts, each of which is run by a step of its own. -/
theorem plan_eq (o : Options) (manifest : String) :
    t.plan o manifest = t.firstCommands ++
      (t.credentialCommands o manifest ++ t.lastCommands o) := by
  simp [plan, firstCommands, credentialCommands, lastCommands, repoCommands,
    namespaceCommand,
    secretCommand, applyCommand, secretFileCommand, nginxCommand,
      platformCommand, ingressCommand,
    waitArgs, deadline, overrides_eq, pullSecret]

/-- Holds for the one failure that does not count: the namespace is there
already. -/
def tolerated (c : Machine.Command) (e : Failure) : Bool :=
  c = t.namespaceCommand && saysAlreadyExists e

/-- Runs commands until one fails. -/
def follow (plan : List Machine.Command) : Act Machine Unit :=
  Machine.runAll t.tolerated .install plan

/-! ## The namespace is made by one command only -/

theorem ne_namespaceCommand_of_first {c : Machine.Command}
    (h : c ∈ t.repoCommands) :
    c ≠ t.namespaceCommand := by
  simp only [repoCommands, List.mem_cons, List.not_mem_nil, or_false] at h
  rcases h with rfl | rfl | rfl <;> simp [helm, namespaceCommand, kubectl]

theorem ne_namespaceCommand_of_last {o : Options} {c : Machine.Command}
    (h : c ∈ t.lastCommands o) :
    c ≠ t.namespaceCommand := by
  simp only [lastCommands, List.mem_append, List.mem_map, List.mem_cons,
    List.not_mem_nil, or_false] at h
  rcases h with ⟨file, -, rfl⟩ | rfl | rfl | rfl <;>
    simp [secretFileCommand, nginxCommand, platformCommand, ingressCommand,
      applyCommand, helm, namespaceCommand, kubectl]

/-! ## The steps of an installation are commands of the plan -/

theorem tolerated_eq_false {c : Machine.Command} (h : c ≠ t.namespaceCommand)
    (e : Failure) :
    t.tolerated c e = false := by
  rw [tolerated, decide_eq_false h, Bool.false_and]

theorem perform_eq_step {c : Machine.Command} (h : c ≠ t.namespaceCommand) :
    Machine.perform t.tolerated .install c = step c := by
  have handler : (fun e => if t.tolerated c e then pure () else Act.fail e) =
      (Act.fail : Failure → Act Machine Unit) := by
    funext e
    rw [t.tolerated_eq_false h, if_neg Bool.false_ne_true]
  rw [Machine.perform, handler, Act.handle_fail]
  rfl

theorem carried_step {c : Machine.Command} (h : c ≠ t.namespaceCommand)
    (m : Machine) :
    Machine.Carried t.tolerated .install m [c] [m.exchange .install c]
      ((step c).silent.run m) := by
  rw [← t.perform_eq_step h]
  exact Machine.carried_perform ..

theorem silent_provideNamespace :
    t.provideNamespace.silent =
      (Machine.perform t.tolerated .install t.namespaceCommand).silent := by
  rw [provideNamespace, Machine.perform, Act.silent_handle, Act.silent_handle]
  refine congrArg _ (funext fun e => ?_)
  rw [tolerated, decide_eq_true rfl, Bool.true_and]
  cases saysAlreadyExists e <;> rfl

theorem silent_follow_first :
    (t.follow t.firstCommands).silent =
      (Act.forEach t.repoCommands step).silent >>= fun _ =>
        t.provideNamespace.silent := by
  rw [follow, Machine.runAll, firstCommands, Act.forEach_append,
    Act.silent_bind]
  rw [Act.forEach_congr fun c hc =>
    t.perform_eq_step (t.ne_namespaceCommand_of_first hc)]
  refine congrArg _ (funext fun _ => ?_)
  rw [silent_provideNamespace, Act.silent_forEach]
  simp [Act.forEach]

theorem silent_applySecretFile (file : String) :
    (t.applySecretFile file).silent =
      (step (t.secretFileCommand file)).silent := by
  simp [applySecretFile]

theorem silent_follow_last (o : Options) :
    (t.follow (t.lastCommands o)).silent =
      (Act.forEach o.secretFiles t.applySecretFile).silent >>= fun _ =>
        (step t.nginxCommand).silent >>= fun _ =>
          (step (t.platformCommand o)).silent >>= fun _ =>
          (step (t.ingressCommand o)).silent := by
  rw [follow, Machine.runAll,
    Act.forEach_congr fun c hc =>
      t.perform_eq_step (t.ne_namespaceCommand_of_last hc),
    lastCommands, Act.forEach_append, Act.forEach_map, Act.silent_bind]
  simp [silent_applySecretFile, Act.forEach]

/-! ## The whole installation -/

def openPage (o : Options) : Act Machine Unit :=
  if o.noBrowser then pure () else Machine.browse o.url

def migrateIfAsked (o : Options) : Act Machine Unit :=
  if o.migrate then t.migrate else pure ()

def storeIfGiven (o : Options) : Act Machine Unit :=
  if o.registry.configured then t.storeCredentials o.registry else pure ()

def commands (o : Options) : Act Machine Unit :=
  t.follow t.firstCommands >>= fun _ => t.storeIfGiven o >>= fun _ =>
    t.follow (t.lastCommands o)

/-- What comes after the credentials, with all that is said. -/
def releases (o : Options) : Act Machine Unit := do
  Act.forEach o.secretFiles t.applySecretFile
  Act.print "[yellow]ℹ️  Installing ingress-nginx...[/yellow]"
  step t.nginxCommand
  Act.print "[green]✅ ingress-nginx installed[/green]"
  Act.print ("[yellow]ℹ️  Installing Airbyte chart (" ++ versionLabel o ++
    ")...[/yellow]")
  step (t.platformCommand o)
  Act.print "[green]✅ Airbyte chart installed[/green]"
  step (t.ingressCommand o)
  Act.print ("[green]✅ Ingress configured for " ++ o.url ++ "[/green]")
  if !o.noBrowser then Machine.browse o.url

/-- What comes after the migration, with all that is said. -/
def charts (o : Options) : Act Machine Unit := do
  Act.emit (.stage "Installing Airbyte")
  Act.forEach t.repoCommands step
  t.provideNamespace
  t.storeIfGiven o
  t.releases o

theorem install_eq (o : Options) :
    t.install o = requireFiles o >>= fun _ => t.migrateIfAsked o >>= fun _ =>
      t.charts o := by
  simp only [install, migrateIfAsked, charts, releases, storeIfGiven]
  cases o.migrate <;> cases o.registry.configured <;>
    simp only [if_true, if_false, Bool.false_eq_true, pure_bind]

/-- Without what is said, an installation looks for the files, migrates, runs
the commands and opens the page. -/
theorem silent_install (o : Options) :
    (t.install o).silent =
      (requireFiles o).silent >>= fun _ =>
        (t.migrateIfAsked o).silent >>= fun _ =>
        (t.commands o).silent >>= fun _ => (openPage o).silent := by
  have stage (text : String) :
      (Act.emit (.stage text) : Act Machine Unit).silent = pure () := rfl
  simp only [commands, silent_follow_first, silent_follow_last, install,
    migrateIfAsked, storeIfGiven, openPage,
    Act.silent_bind, Act.silent_print, stage, pure_bind, Act.silent_ite,
      Act.silent_pure, bind_assoc]
  refine congrArg _ (funext fun _ => ?_)
  cases o.migrate <;> cases o.registry.configured <;> cases o.noBrowser <;>
    simp only [if_true, if_false, Bool.false_eq_true, Bool.not_true,
      Bool.not_false, pure_bind]

/-! ## The plan is followed -/

/-- Holds if the dry run, where it succeeded, wrote the given document. -/
def Wrote (o : Options) (manifest : String)
    (log : List Machine.Exchange) : Prop :=
  ∀ x ∈ log, x.command = t.secretCommand o.registry →
    ∀ stdout, x.answer = .ok stdout →
    stdout = manifest

variable {t}

theorem Wrote.of_notMem {o : Options} {manifest : String}
    {log : List Machine.Exchange} {plan : List Machine.Command}
    {r : Report Machine Unit} {m : Machine}
    (h : Machine.Carried t.tolerated .install m plan log r)
    (hn : t.secretCommand o.registry ∉ plan) : t.Wrote o manifest log := by
  intro x hx hc
  exact absurd (hc ▸ h.follows.isPrefix.subset (List.mem_map_of_mem hx)) hn

theorem Wrote.append {o : Options} {manifest : String}
    {log more : List Machine.Exchange} (h : t.Wrote o manifest log)
    (h' : t.Wrote o manifest more) :
    t.Wrote o manifest (log ++ more) := by
  intro x hx
  rcases List.mem_append.mp hx with hx | hx
  · exact h x hx
  · exact h' x hx

variable (t)

theorem secretCommand_notMem_first (r : Registry) :
    t.secretCommand r ∉ t.firstCommands := by
  simp [firstCommands, repoCommands, secretCommand, namespaceCommand,
    helm, kubectl]

theorem secretCommand_notMem_last (r : Registry) (o : Options) :
    t.secretCommand r ∉ t.lastCommands o := by
  simp [lastCommands, secretCommand, secretFileCommand, nginxCommand,
    platformCommand, ingressCommand, applyCommand, helm, kubectl]

theorem carried_storeIfGiven (o : Options) (m : Machine) :
    ∃ manifest log,
      Machine.Carried t.tolerated .install m (t.credentialCommands o manifest)
      log
        ((t.storeIfGiven o).silent.run m) ∧ t.Wrote o manifest log := by
  cases hr : o.registry.configured with
  | false =>
    refine ⟨"", [], ?_, fun x hx => nomatch hx⟩
    simp only [storeIfGiven, credentialCommands, hr,
      Bool.false_eq_true, if_false]
    exact .nothing _ m
  | true =>
    have hs : t.secretCommand o.registry ≠ t.namespaceCommand := by
      simp [secretCommand, namespaceCommand, kubectl]
    have ha (manifest : String) :
        t.applyCommand manifest ≠ t.namespaceCommand := by
      simp [applyCommand, namespaceCommand, kubectl]
    have hrun : (t.storeIfGiven o).silent =
        (Machine.command .install (t.secretCommand o.registry)).silent >>=
          fun manifest =>
          (step (t.applyCommand manifest)).silent := by
      simp only [storeIfGiven, hr, if_true, storeCredentials, perform,
        Act.silent_bind, Act.silent_print, bind_pure_unit]
    simp only [hrun, credentialCommands, hr, if_true, Act.run_bind,
      Machine.run_silent_command]
    cases hans : m.answer .install (t.secretCommand o.registry) with
    | error e =>
      have hf :
          (m.exchange .install (t.secretCommand o.registry)).failure?
          t.tolerated = some e :=
        Machine.Exchange.failure?_of_error hans
          (by simp [Machine.exchange, tolerated, hs])
      refine ⟨"", [m.exchange .install (t.secretCommand o.registry)],
        ⟨rfl, ?_, .cons _ (.nil _), Follows.cons_iff.mpr ⟨rfl, .inr ⟨?_, rfl⟩⟩⟩,
          ?_⟩
      · rw [Machine.verdict_cons, hf]
      · exact ne_of_eq_of_ne hf (Option.some_ne_none e)
      · intro x hx _ stdout hx'
        rw [List.mem_singleton.mp hx] at hx'
        exact nomatch hans.symm.trans hx'
    | ok manifest =>
      have hf :
          (m.exchange .install (t.secretCommand o.registry)).failure?
          t.tolerated = none :=
        Machine.Exchange.failure?_of_ok hans
      refine ⟨manifest, _, .cons hf (t.carried_step (ha manifest) _), ?_⟩
      intro x hx hc stdout hx'
      rcases List.mem_cons.mp hx with rfl | hx
      · exact Except.ok.inj (hx'.symm.trans hans)
      · rw [List.mem_singleton.mp hx] at hc
        simp [Machine.exchange, secretCommand, applyCommand, kubectl] at hc

theorem carried_commands (o : Options) (m : Machine) :
    ∃ manifest log,
      Machine.Carried t.tolerated .install m (t.plan o manifest) log
        ((t.commands o).silent.run m) ∧ t.Wrote o manifest log := by
  simp only [commands, Act.silent_bind, plan_eq]
  obtain ⟨log₁, h₁⟩ : ∃ log,
    Machine.Carried t.tolerated .install m t.firstCommands log _ :=
    Machine.carried_runAll ..
  obtain ⟨manifest, log₂, h₂, hw₂⟩ :=
    t.carried_storeIfGiven o ((t.follow t.firstCommands).silent.run m).state
  obtain ⟨log₃, h₃⟩ : ∃ log,
    Machine.Carried t.tolerated .install _ (t.lastCommands o) log _ :=
    Machine.carried_runAll ..
  have hw₁ : t.Wrote o manifest log₁ :=
    .of_notMem h₁ (t.secretCommand_notMem_first _)
  have hw₃ : t.Wrote o manifest log₃ :=
    .of_notMem h₃ (t.secretCommand_notMem_last _ _)
  obtain ⟨rest₃, hr₃, h₂₃⟩ := h₂.bind h₃
  obtain ⟨rest₂, hr₂, h⟩ := h₁.bind h₂₃
  have none : t.Wrote o manifest [] := fun x hx => nomatch hx
  refine ⟨manifest, log₁ ++ rest₂, h, hw₁.append ?_⟩
  rcases hr₂ with rfl | rfl
  · exact none
  · refine hw₂.append ?_
    rcases hr₃ with rfl | rfl
    · exact none
    · exact hw₃

end SingleNode.Chart.Target
