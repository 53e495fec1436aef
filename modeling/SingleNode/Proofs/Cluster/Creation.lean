/-
# How the creation of a cluster ends

The mounts are looked at first, then the data directory is made, and then one
command is run.  Each step that fails blocks the later ones: of the mounts the
first that has no host path or no guest path is named and nothing is done, and
without the data directory no command is run (`AttemptedOnce`).

A creation should return exactly if its command exits with the status 0, and
every error that it raises should be a fault of the stage of cluster creation
(`EndsWell`).  There is one reply for which it does not.  What the command
writes is of no interest, but it is read as text all the same, so a command that
succeeds and writes bytes that are not text makes the creation fail with the
error of reading them (`create_endsWell_iff`).  An interruption by the user is
no error.
-/
import SingleNode.Proofs.Installation.Directories
import SingleNode.Proofs.Machine.Shell

namespace SingleNode

/-! ## Complete mounts -/

namespace Mount

def IsComplete (mount : Mount) : Prop :=
  mount.hostPath ≠ "" ∧ mount.containerPath ≠ ""

/-- The mount is the first that has no host path or no guest path. -/
def IsFirstIncomplete (mounts : List Mount) (mount : Mount) : Prop :=
  ∃ before rest, mounts = before ++ mount :: rest ∧
    (∀ x ∈ before, x.IsComplete) ∧ ¬mount.IsComplete

theorem isIncomplete_eq_true_iff {mount : Mount} :
    mount.isIncomplete = true ↔ ¬mount.IsComplete := by
  rw [← Bool.not_eq_false, isIncomplete_eq_false_iff, IsComplete]

theorem find?_isIncomplete_eq_none_iff {mounts : List Mount} :
    mounts.find? isIncomplete = none ↔ ∀ mount ∈ mounts, mount.IsComplete := by
  rw [List.find?_eq_none]
  refine forall₂_congr fun mount _ => ?_
  rw [isIncomplete_eq_true_iff, Classical.not_not]

theorem find?_isIncomplete_eq_some_iff {mounts : List Mount} {mount : Mount} :
    mounts.find? isIncomplete = some mount ↔
      IsFirstIncomplete mounts mount := by
  rw [List.find?_eq_some_iff_append, isIncomplete_eq_true_iff]
  constructor
  · rintro ⟨hmount, before, rest, hmounts, hbefore⟩
    refine ⟨before, rest, hmounts, ?_, hmount⟩
    intro x hx
    exact isIncomplete_eq_false_iff.mp (by simpa using hbefore x hx)
  · rintro ⟨before, rest, hmounts, hbefore, hmount⟩
    refine ⟨hmount, before, rest, hmounts, ?_⟩
    intro x hx
    simpa using isIncomplete_eq_false_iff.mpr (hbefore x hx)

end Mount

/-! ## Answers -/

namespace Machine

/-- How a command can end, by the reply to it, for a caller that names a class
of fault. -/
inductive Ends (kind : FaultClass) : Option Reply → Except Failure String → Prop
  | returned {stdout : Output} {text : String} :
      stdout.read = .ok text → Ends kind (some (.succeeds stdout)) (.ok text)
  | unreadable {stdout : Output} {bytes : List UInt8}
      {damage : Text.Utf8Damage} :
      stdout.read = .error (.undecodable bytes damage) →
      Ends kind (some (.succeeds stdout)) (.error (.undecodable bytes damage))
  | interrupted :
      Ends kind (some .interrupted) (.error (.plain .interrupt none))
  | faulted {reply? : Option Reply} {f : Fault} :
      (∀ stdout, reply? ≠ some (.succeeds stdout)) → f.stage = kind.stage →
      f.kind = (if reply? = some .expires then .cancelled else kind) →
      Ends kind reply? (.error (.fault f))

theorem ends_heard (kind : FaultClass) (c : Command) (reply? : Option Reply) :
    Ends kind reply? (Exchange.heard kind (c, reply?)).answer := by
  cases reply? with
  | none => exact .faulted nofun rfl rfl
  | some reply =>
    cases reply with
    | succeeds stdout =>
      show Ends kind _ stdout.read
      cases hr : stdout.read with
      | ok text => exact .returned hr
      | error e =>
        cases stdout with
        | text => cases hr
        | raw bytes =>
          cases hu : Text.readUtf8 bytes with
          | ok text =>
            rw [Output.read, hu] at hr
            cases hr
          | error damage =>
            have hread :
                (Output.raw bytes).read =
                  .error (.undecodable bytes damage) := by
              rw [Output.read, hu]
              rfl
            obtain rfl := Except.error.inj (hr.symm.trans hread)
            exact .unreadable hread
    | exits | killed | vanishes | expires => exact .faulted nofun rfl rfl
    | interrupted => exact .interrupted

theorem answer_eq_heard (kind : FaultClass) (m : Machine) (c : Command) :
    m.answer kind c = (Exchange.heard kind (c, m.shell.reply? c)).answer :=
  congrArg Exchange.answer (exchange_eq_heard kind m c)

theorem ends_answer (kind : FaultClass) (m : Machine) (c : Command) :
    Ends kind (m.shell.reply? c) (m.answer kind c) := by
  rw [answer_eq_heard]
  exact ends_heard kind c _

end Machine

/-! ## Creating a cluster -/

namespace Cluster

section Creation

variable (cfg : Config) (provider : Provider) (port : Int) (mounts : List Mount)
  (m : Machine)

/-- The machine on which the data directory has been made, as far as it can
be. -/
def prepared : Machine :=
  { m with tree := (m.tree.ensureDirectories cfg.dataDir).1 }

/-- The creation comes to its command: all mounts are complete, and the data
directory is there. -/
def Reaches : Prop :=
  (∀ mount ∈ mounts, mount.IsComplete) ∧
    (prepared cfg m).tree.isDirectory cfg.dataDir = true

/-- The command of a creation, word for word, with the manifest as its
configuration. -/
def creation : Machine.Command where
  program := "kind"
  args :=
    ["create", "cluster", "--name", provider.clusterName, "--image",
    cfg.nodeImage,
    "--config", "<config>"]
  timeout := cfg.commandTimeout
  input := none
  config := some (Manifest.render port mounts cfg.dataDir)

/-- The reply that the command gets. -/
def reply? : Option Reply :=
  (prepared cfg m).shell.reply? (creation cfg provider port mounts)

/-- What a creation does: it is refused for the first mount that is not
complete, or ends without the data directory, or runs its command. -/
structure AttemptedOnce (r : Report Machine Unit) : Prop where
  refused : ∀ mount, Mount.IsFirstIncomplete mounts mount →
    r.events = [] ∧ r.state = m ∧ ∃ f, r.outcome = .error (.fault f) ∧
      f.kind = .resourceCreation ∧
      f.detail = "volume " ++ mount.hostPath ++ ":" ++ mount.containerPath ++
        " must have both a host and a guest path"
  unmade : (∀ mount ∈ mounts, mount.IsComplete) →
    (prepared cfg m).tree.isDirectory cfg.dataDir = false →
    r.events = [] ∧ r.state = prepared cfg m ∧
      ∃ f, r.outcome = .error (.fault f) ∧ f.kind = .resourceCreation
  /-- The command is run on the machine that has the data directory. -/
  attempted : Reaches cfg mounts m →
    let c := creation cfg provider port mounts
    r.events = [.log .debug c.announcement, (prepared cfg m).attempt c] ∧
      r.state = (prepared cfg m).after c

/-- How a creation should end. -/
structure EndsWell (r : Report Machine Unit) : Prop where
  returns : r.outcome = .ok () ↔
    Reaches cfg mounts m ∧
    ∃ stdout, reply? cfg provider port mounts m = some (.succeeds stdout)
  raises : ∀ e, r.outcome = .error e → e.isInterrupt = false →
    ∃ f, e = .fault f ∧ f.stage = "cluster creation" ∧
      (f.kind = .resourceCreation ∨
        f.kind = .cancelled ∧ Reaches cfg mounts m ∧
        reply? cfg provider port mounts m = some .expires)

/-- The command succeeds, and what it writes is not text. -/
def IsUnreadable : Prop :=
  Reaches cfg mounts m ∧ ∃ stdout bytes damage,
    reply? cfg provider port mounts m = some (.succeeds stdout) ∧
      stdout.read = .error (.undecodable bytes damage)

/-- What can happen when a cluster is created on the machine `m`, with what is
said about it. -/
inductive Creating : Report Machine Unit → Prop
  | refused {mount : Mount} :
      Mount.IsFirstIncomplete mounts mount →
      Creating ⟨[], m, .error (.ofFault .resourceCreation
        ("volume " ++ mount.spec ++ " must have both a host and a guest path"))⟩
  | unmade {problem : FileProblem} {place : HostPath} :
      (∀ mount ∈ mounts, mount.IsComplete) →
      (m.tree.ensureDirectories cfg.dataDir).2 = some (problem, place) →
      Creating
        ⟨[], prepared cfg m,
        .error (dataDirFailure cfg (.file problem place.toString))⟩
  | attempted :
      Reaches cfg mounts m →
      Creating
        ⟨[.log .debug (createCommand cfg provider port mounts).announcement,
            (prepared cfg m).attempt (createCommand cfg provider port mounts)],
          (prepared cfg m).after (createCommand cfg provider port mounts),
          ((prepared cfg m).answer .resourceCreation
            (createCommand cfg provider port mounts)).map
            fun _ => ()⟩

variable {cfg}

theorem run_makeDataDir (h : Machine.IsNamable cfg.dataDir) :
    (makeDataDir cfg).run m =
      ⟨[], prepared cfg m,
        (Machine.madeOr (m.tree.ensureDirectories cfg.dataDir).2).mapError
          (dataDirFailure cfg)⟩ := by
  rw [makeDataDir, Act.run_handle_fail _ (dataDirFailure cfg) m fun _ => rfl,
    Machine.run_ensureDirectories h]
  rfl

theorem run_create (h : Machine.IsNamable cfg.dataDir) :
    Creating cfg provider port mounts m
      ((create cfg provider port mounts).run m) := by
  cases hf : mounts.find? Mount.isIncomplete with
  | some mount =>
    rw [create, hf]
    exact .refused (Mount.find?_isIncomplete_eq_some_iff.mp hf)
  | none =>
    have hcomplete := Mount.find?_isIncomplete_eq_none_iff.mp hf
    have hmade := run_makeDataDir m h
    rw [create_of_complete cfg provider hf]
    cases ht : (m.tree.ensureDirectories cfg.dataDir).2 with
    | some problem =>
      rw [ht] at hmade
      rw [Act.run_bind_error hmade]
      exact .unmade hcomplete ht
    | none =>
      rw [ht] at hmade
      have hreaches : Reaches cfg mounts m :=
        ⟨hcomplete, FileTree.isDirectory_ensureDirectories ht⟩
      have hc : Creating cfg provider port mounts m _ := .attempted hreaches
      rw [Act.run_bind_ok hmade, Act.run_bind, Machine.run_command]
      generalize Machine.answer .resourceCreation (prepared cfg m) _ =
        answer at hc ⊢
      cases answer with
      | error e => exact hc
      | ok text => exact hc

variable {provider port mounts m} {r : Report Machine Unit}

theorem not_complete_of_isFirstIncomplete {mount : Mount}
    (h : Mount.IsFirstIncomplete mounts mount) :
    ¬∀ mount ∈ mounts, mount.IsComplete := by
  obtain ⟨before, rest, rfl, -, hmount⟩ := h
  intro hall
  exact hmount (hall mount (List.mem_append_right _ List.mem_cons_self))

theorem isDirectory_prepared {problem : FileProblem × HostPath}
    (h : (m.tree.ensureDirectories cfg.dataDir).2 = some problem) :
    (prepared cfg m).tree.isDirectory cfg.dataDir = false :=
  FileTree.not_isDirectory_ensureDirectories h

theorem Creating.attemptedOnce (h : Creating cfg provider port mounts m r) :
    AttemptedOnce cfg provider port mounts m r := by
  cases h with
  | @refused mount hfirst =>
    refine ⟨?_, fun hall =>
      absurd hall (not_complete_of_isFirstIncomplete hfirst),
      fun hr => absurd hr.1 (not_complete_of_isFirstIncomplete hfirst)⟩
    intro mount' hfirst'
    have hmount : some mount = some mount' :=
      (Mount.find?_isIncomplete_eq_some_iff.mpr hfirst).symm.trans
        (Mount.find?_isIncomplete_eq_some_iff.mpr hfirst')
    obtain rfl := Option.some.inj hmount
    exact ⟨rfl, rfl, _, rfl, rfl, rfl⟩
  | unmade hcomplete ht =>
    refine ⟨fun mount hfirst =>
      absurd hcomplete (not_complete_of_isFirstIncomplete hfirst),
      fun _ _ => ⟨rfl, rfl, _, rfl, rfl⟩, ?_⟩
    intro hr
    exact nomatch hr.2.symm.trans (isDirectory_prepared ht)
  | attempted hr =>
    refine ⟨fun mount hfirst =>
      absurd hr.1 (not_complete_of_isFirstIncomplete hfirst), ?_,
      fun _ => ⟨rfl, rfl⟩⟩
    intro _ hd
    exact nomatch hr.2.symm.trans hd

theorem endsWell_of_not_reaches {f : Fault} (hn : ¬Reaches cfg mounts m)
    (ho : r.outcome = .error (.fault f)) (hk : f.kind = .resourceCreation)
    (hs : f.stage = "cluster creation") :
    EndsWell cfg provider port mounts m r where
  returns := by
    rw [ho]
    exact iff_of_false nofun fun h => hn h.1
  raises e he _ := by
    obtain rfl := Except.error.inj (ho.symm.trans he)
    exact ⟨f, rfl, hs, .inl hk⟩

/-- A creation that comes to its command ends as the command does. -/
theorem endsWell_attempted_iff {answer : Except Failure String}
    (hr : Reaches cfg mounts m)
    (ha : Machine.Ends .resourceCreation (reply? cfg provider port mounts m)
      answer) (ho : r.outcome = answer.map fun _ => ()) :
    EndsWell cfg provider port mounts m r ↔
      ¬IsUnreadable cfg provider port mounts m := by
  rw [IsUnreadable]
  generalize hreply : reply? cfg provider port mounts m = reply at ha
  cases ha with
  | @returned stdout text hread =>
    have hok : r.outcome = .ok () := ho
    refine iff_of_true ⟨iff_of_true hok ⟨hr, stdout, hreply⟩, ?_⟩ ?_
    · intro e he
      exact nomatch hok.symm.trans he
    · rintro ⟨-, stdout', bytes, damage, hs, hd⟩
      obtain rfl := Reply.succeeds.inj (Option.some.inj hs)
      exact nomatch hread.symm.trans hd
  | @unreadable stdout bytes damage hread =>
    have herr : r.outcome = .error (.undecodable bytes damage) := ho
    refine iff_of_false ?_
      (not_not_intro ⟨hr, stdout, bytes, damage, rfl, hread⟩)
    intro hw
    obtain ⟨f, hf, -⟩ := hw.raises _ herr rfl
    cases hf
  | interrupted =>
    have herr : r.outcome = .error (.plain .interrupt none) := ho
    refine iff_of_true ⟨?_, ?_⟩ ?_
    · rw [herr, hreply]
      refine iff_of_false nofun ?_
      rintro ⟨-, stdout, hs⟩
      cases hs
    · intro e he hi
      obtain rfl := Except.error.inj (herr.symm.trans he)
      cases hi
    · rintro ⟨-, stdout, bytes, damage, hs, -⟩
      cases hs
  | @faulted _ f hn hs hk =>
    have herr : r.outcome = .error (.fault f) := ho
    refine iff_of_true ⟨?_, ?_⟩ ?_
    · rw [herr, hreply]
      refine iff_of_false nofun ?_
      rintro ⟨-, stdout, h⟩
      exact hn stdout h
    · intro e he _
      obtain rfl := Except.error.inj (herr.symm.trans he)
      refine ⟨f, rfl, hs, ?_⟩
      rw [hreply]
      split at hk
      next hexpired => exact .inr ⟨hk, hr, hexpired⟩
      next => exact .inl hk
    · rintro ⟨-, stdout, bytes, damage, h, -⟩
      exact hn stdout h

theorem Creating.endsWell_iff (h : Creating cfg provider port mounts m r) :
    EndsWell cfg provider port mounts m r ↔
      ¬IsUnreadable cfg provider port mounts m := by
  cases h with
  | refused hfirst =>
    have hn : ¬Reaches cfg mounts m :=
      fun hr => not_complete_of_isFirstIncomplete hfirst hr.1
    exact iff_of_true (endsWell_of_not_reaches hn rfl rfl rfl) fun hu => hn hu.1
  | unmade _ ht =>
    have hn : ¬Reaches cfg mounts m :=
      fun hr => nomatch hr.2.symm.trans (isDirectory_prepared ht)
    exact iff_of_true (endsWell_of_not_reaches hn rfl rfl rfl) fun hu => hn hu.1
  | attempted hr =>
    exact endsWell_attempted_iff hr (Machine.ends_answer _ _ _) rfl

theorem Creating.of_isUnreadable (h : Creating cfg provider port mounts m r)
    (hu : IsUnreadable cfg provider port mounts m) :
    ∃ bytes damage, r.outcome = .error (.undecodable bytes damage) := by
  cases h with
  | refused hfirst =>
    exact absurd hu.1.1 (not_complete_of_isFirstIncomplete hfirst)
  | unmade _ ht => exact nomatch hu.1.2.symm.trans (isDirectory_prepared ht)
  | attempted hr =>
    obtain ⟨-, stdout, bytes, damage, hreply, hread⟩ := hu
    refine ⟨bytes, damage, ?_⟩
    have hanswer :
        (prepared cfg m).answer .resourceCreation
        (createCommand cfg provider port mounts) =
        .error (.undecodable bytes damage) := by
      rw [Machine.answer_eq_heard]
      exact (congrArg
        (fun reply =>
        (Machine.Exchange.heard .resourceCreation (_, reply)).answer)
        hreply).trans hread
    exact congrArg (Except.map fun _ => ()) hanswer

/-- A creation looks at the mounts first, then makes the data directory, and
then runs its command once.  It ends as it should unless its command succeeds
and writes what is not text; then it fails with the error of reading that. -/
theorem create_endsWell_iff (h : Machine.IsNamable cfg.dataDir)
    (provider : Provider) (port : Int) (mounts : List Mount) (m : Machine) :
    let r := (create cfg provider port mounts).run m
    AttemptedOnce cfg provider port mounts m r ∧
      (EndsWell cfg provider port mounts m r ↔
        ¬IsUnreadable cfg provider port mounts m) ∧
      (IsUnreadable cfg provider port mounts m →
        ∃ bytes damage, r.outcome = .error (.undecodable bytes damage)) := by
  intro r
  have hr : Creating cfg provider port mounts m r :=
    run_create provider port mounts m h
  exact ⟨hr.attemptedOnce, hr.endsWell_iff, hr.of_isUnreadable⟩

end Creation

/-- Settings with a data directory below the working directory. -/
def localConfig : Config :=
  { Config.default "/root" with dataDir := ⟨"", ["data"]⟩ }

def kindProvider : Provider := ⟨.kind, defaultName⟩

/-- A machine on which the command succeeds and writes a byte that is not
text. -/
def garbling : Machine where
  tree := .empty ["work"]
  rules := [⟨["kind", "create"], none, .succeeds (.raw [0xff])⟩]

theorem isNamable_localConfig : Machine.IsNamable localConfig.dataDir := by
  rw [Machine.IsNamable]
  decide +kernel

theorem reaches_garbling : Reaches localConfig [] garbling := by
  have hmake : garbling.tree.makeDirectory localConfig.dataDir =
      .ok (garbling.tree.add ["work", "data"] .directory) := rfl
  refine ⟨nofun, FileTree.isDirectory_ensureDirectories ?_⟩
  rw [FileTree.ensureDirectories, hmake, FileTree.ensureDirectory, hmake]

theorem isUnreadable_garbling :
    IsUnreadable localConfig kindProvider 8000 [] garbling :=
  ⟨reaches_garbling, .raw [0xff], [0xff], _, rfl, rfl⟩

/-- There the creation does what it should, but it does not end as it should. -/
theorem create_endsWell_iff_garbling :
    let r := (create localConfig kindProvider 8000 []).run garbling
    Machine.IsNamable localConfig.dataDir ∧
      AttemptedOnce localConfig kindProvider 8000 [] garbling r ∧
      IsUnreadable localConfig kindProvider 8000 [] garbling ∧
      ¬EndsWell localConfig kindProvider 8000 [] garbling r := by
  intro r
  obtain ⟨honce, hiff, -⟩ :=
    create_endsWell_iff isNamable_localConfig kindProvider 8000 [] garbling
  have hu := isUnreadable_garbling
  exact ⟨isNamable_localConfig, honce, hu, fun hw => hiff.mp hw hu⟩

/-- The command exits with the status 0, and the creation raises an error that
is no fault. -/
theorem garbling_raises :
    let r := (create localConfig kindProvider 8000 []).run garbling
    (∃ stdout, reply? localConfig kindProvider 8000 [] garbling =
      some (.succeeds stdout)) ∧
      ∃ e, r.outcome = .error e ∧ e.isInterrupt = false ∧
        ∀ f, e ≠ .fault f := by
  intro r
  have hr : Creating localConfig kindProvider 8000 [] garbling r :=
    run_create kindProvider 8000 [] garbling isNamable_localConfig
  obtain ⟨bytes, damage, ho⟩ := hr.of_isUnreadable isUnreadable_garbling
  exact ⟨⟨_, rfl⟩, _, ho, rfl, nofun⟩

end Cluster

end SingleNode
