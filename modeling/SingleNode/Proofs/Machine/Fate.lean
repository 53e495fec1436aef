/-
# What becomes of a command

How processes are started is left open: a way of starting them tells what became
of the process, be it that its program is missing, that it is not done in time,
that it exits with a status or that a signal ends it (`Fate.told`).  Whatever a
caller names as the class of fault, it gets the output of a process that exits
with the status 0, and for any other fate one fault with the stage of that class
(`KeepsStage`).  The fault is of the class itself, or a cancellation if the time
was over; and where there was a process that failed, its message ends with what
there is to say about it (`Diagnosis`).

Output has to be text to be returned.  What a successful process writes is read
without repairs, so bytes that are not text end the command with the error of
reading them.  What a process wrote before it failed may be anything.
-/
import SingleNode.Proofs.Machine.Shell
import SingleNode.Proofs.Text.Trim

namespace SingleNode

namespace Text

/-- The second text is the first without the blanks at its ends. -/
def Strips (s core : String) : Prop :=
  IsTrimmed isBlank core.toList ∧ ∃ lead trail, (∀ c ∈ lead, isBlank c = true) ∧
    (∀ c ∈ trail, isBlank c = true) ∧ s.toList = lead ++ core.toList ++ trail

theorem strips_trim (s : String) : Strips s (trim s) := by
  rw [Strips, trim, String.toList_ofList]
  exact trimList_eq_iff.mp rfl

theorem trim_eq_empty_iff {s : String} :
    trim s = "" ↔ ∀ c ∈ s.toList, isBlank c = true := by
  rw [← trimList_eq_nil_iff, trim]
  exact String.ofList_eq_empty_iff

theorem isBlank_of_isDigit {c : Char} (h : c.isDigit = true) :
    isBlank c = false := by
  simp only [Char.isDigit, Bool.and_eq_true, decide_eq_true_eq, ge_iff_le,
    UInt32.le_iff_toNat_le] at h
  obtain ⟨hlo, hhi⟩ : 48 ≤ c.toNat ∧ c.toNat ≤ 57 := h
  rw [Bool.eq_false_iff]
  intro hb
  simp only [isBlank, isWhiteSpace, Bool.or_eq_true, Bool.and_eq_true,
    decide_eq_true_eq, beq_iff_eq] at hb
  omega

theorem exists_getLast?_repr (n : Nat) :
    ∃ c, n.repr.toList.getLast? = some c ∧ c.isDigit = true := by
  have hne : n.repr.toList ≠ [] := by
    rw [Nat.toList_repr]
    exact Nat.toDigits_ne_nil
  refine ⟨n.repr.toList.getLast hne, List.getLast?_eq_some_getLast hne, ?_⟩
  have hmem := List.getLast_mem hne
  generalize n.repr.toList.getLast hne = c at hmem
  rw [Nat.toList_repr] at hmem
  exact Nat.isDigit_of_mem_toDigits (by omega) (by omega) hmem

theorem exists_getLast?_toString (n : Int) :
    ∃ c, (toString n).toList.getLast? = some c ∧ c.isDigit = true := by
  cases n with
  | ofNat n => exact exists_getLast?_repr n
  | negSucc n =>
    obtain ⟨c, hc, hd⟩ := exists_getLast?_repr (n + 1)
    refine ⟨c, ?_, hd⟩
    rw [show toString (Int.negSucc n) = "-" ++ (n + 1).repr from rfl,
      String.toList_append, List.getLast?_append, hc]
    rfl

end Text

namespace Output

/-- Nothing was written, be it as text or as bytes. -/
def IsNothing (output : Output) : Prop :=
  output = .text "" ∨ output = .raw []

theorem isEmpty_eq_true_iff {output : Output} :
    output.isEmpty = true ↔ output.IsNothing := by
  cases output <;> simp [isEmpty, IsNothing]

end Output

namespace Machine

/-- What becomes of a process. -/
inductive Fate
  | missing
  | expired
  | exited (status : Nat) (stdout stderr : Output)
  | killed (signal : Nat) (stdout stderr : Output)

namespace Fate

/-- What a way of starting processes tells. A signal is told as a status below
0. -/
def told : Fate → Except Failure (Except Ending String)
  | missing => .ok (.error .missing)
  | expired => .ok (.error .expired)
  | exited 0 stdout _ => stdout.read.map .ok
  | exited (n + 1) stdout stderr =>
    .ok (.error (.status (n + 1 : Nat) stdout stderr))
  | killed signal stdout stderr =>
    .ok (.error (.status (-signal) stdout stderr))

/-- The process ran, and it exited with the status 0. -/
def Succeeded (fate : Fate) : Prop :=
  ∃ stdout stderr, fate = .exited 0 stdout stderr

/-- The process succeeded with a text as its output. -/
def Returned (fate : Fate) (text : String) : Prop :=
  ∃ stdout stderr, fate = .exited 0 stdout stderr ∧ stdout.read = .ok text

/-- The output of the process is text, if the process succeeded. -/
def IsText (fate : Fate) : Prop := fate.Succeeded → ∃ text, fate.Returned text

/-- The process ran and did not succeed. -/
inductive Failed : Fate → Int → Output → Output → Prop
  | exited {n : Nat} {stdout stderr : Output} : n ≠ 0 →
      Failed (.exited n stdout stderr) n stdout stderr
  | killed {signal : Nat} {stdout stderr : Output} :
      Failed (.killed signal stdout stderr) (-signal) stdout stderr

/-- The fate as the cause of a fault. -/
inductive Causes : Fate → Cause → Prop
  | missing : Causes .missing .commandMissing
  | expired : Causes .expired .deadline
  | failed {fate : Fate} {status : Int} {stdout stderr : Output} :
      Failed fate status stdout stderr → Causes fate (.exitStatus status)

section Failed

variable {fate : Fate} {status : Int} {stdout stderr : Output}
  (h : Failed fate status stdout stderr)

include h

theorem Failed.told :
    fate.told = .ok (.error (.status status stdout stderr)) := by
  cases h with
  | @exited n _ _ hn =>
    obtain ⟨k, rfl⟩ := Nat.exists_eq_succ_of_ne_zero hn
    rfl
  | killed => rfl

theorem Failed.not_succeeded : ¬fate.Succeeded := by
  rintro ⟨stdout, stderr, rfl⟩
  cases h with
  | exited hn => exact hn rfl

theorem Failed.ne_expired : fate ≠ .expired := by
  rintro rfl
  cases h

theorem Failed.unique {status' : Int} {stdout' stderr' : Output}
    (h' : Failed fate status' stdout' stderr') :
    status' = status ∧ stdout' = stdout ∧ stderr' = stderr := by
  have ht := Except.ok.inj (h'.told.symm.trans h.told)
  exact Ending.status.inj (Except.error.inj ht)

end Failed

theorem isText_of_not_succeeded {fate : Fate} (h : ¬fate.Succeeded) :
    fate.IsText := fun hs => absurd hs h

end Fate

/-- What there is to say about a process that ended with a status: what it wrote
as errors, or what it wrote at all if there were none, without blanks at its
ends; or its status, if nothing but blanks was written. -/
inductive Diagnosis (status : Int) (stdout stderr : Output) : String → Prop
  | written {output : Output} {text : String} :
      (¬stderr.IsNothing ∧ output = stderr ∨
        stderr.IsNothing ∧ output = stdout) →
      text ≠ "" → Text.Strips output.repaired text →
      Diagnosis status stdout stderr text
  | silent {output : Output} :
      (¬stderr.IsNothing ∧ output = stderr ∨
        stderr.IsNothing ∧ output = stdout) →
      (∀ c ∈ output.repaired.toList, Text.isBlank c = true) →
      Diagnosis status stdout stderr ("exit code " ++ toString status)

/-- How a command ends for a caller that names a class of fault. -/
structure KeepsStage (kind : FaultClass) (fate : Fate)
    (r : Except Failure String) : Prop where
  /-- It returns exactly if the process succeeded, and then it returns the
  output. -/
  returns : ((∃ text, r = .ok text) ↔ fate.Succeeded) ∧ ∀ text, r = .ok text →
    fate.Returned text
  /-- Else it raises a fault that has the stage of the class, and the fate of
  the process as its cause. -/
  raises : ¬fate.Succeeded → ∃ f, r = .error (.fault f) ∧ f.stage = kind.stage ∧
    (∃ cause, f.cause = some cause ∧ fate.Causes cause) ∧
    (f.kind = .cancelled ↔ fate = .expired) ∧
    (fate ≠ .expired → f.kind = kind) ∧
    ∀ status stdout stderr, fate.Failed status stdout stderr → ∃ front text,
      f.message = front ++ text ∧ Diagnosis status stdout stderr text ∧
        text ≠ "" ∧ Text.IsTrimmed Text.isBlank text.toList

section Diagnosis

variable (status : Int) (stdout stderr : Output)

theorem isTrimmed_exitCode :
    Text.IsTrimmed Text.isBlank ("exit code " ++ toString status).toList where
  head c hc := by
    rw [String.toList_append] at hc
    obtain rfl := Option.some.inj (show some 'e' = some c from hc)
    rfl
  last c hc := by
    obtain ⟨d, hd, hdigit⟩ := Text.exists_getLast?_toString status
    rw [String.toList_append, List.getLast?_append, hd] at hc
    obtain rfl := Option.some.inj (show some d = some c from hc)
    exact Text.isBlank_of_isDigit hdigit

/-- What is said is never blank, and there are no blanks around it. -/
theorem Diagnosis.ne_empty_and_isTrimmed {text : String}
    (h : Diagnosis status stdout stderr text) :
    text ≠ "" ∧ Text.IsTrimmed Text.isBlank text.toList := by
  cases h with
  | written _ hne hs => exact ⟨hne, hs.1⟩
  | silent =>
    refine ⟨?_, isTrimmed_exitCode status⟩
    intro h
    have hnil := congrArg String.toList h
    rw [String.toList_append] at hnil
    exact List.append_ne_nil_of_left_ne_nil (by decide) _ hnil

theorem diagnosis_diagnostic :
    Diagnosis status stdout stderr
    (Ending.diagnostic status stdout stderr) := by
  have hspoken : ¬stderr.IsNothing ∧ stderr.orElse stdout = stderr ∨
      stderr.IsNothing ∧ stderr.orElse stdout = stdout := by
    rw [Output.orElse, ← Output.isEmpty_eq_true_iff]
    split
    · next h => exact .inr ⟨h, rfl⟩
    · next h => exact .inl ⟨h, rfl⟩
  by_cases h : Text.trim (stderr.orElse stdout).repaired = ""
  · rw [Ending.diagnostic, if_pos h]
    exact .silent hspoken (Text.trim_eq_empty_iff.mp h)
  · rw [Ending.diagnostic, if_neg h]
    exact .written hspoken h (Text.strips_trim _)

end Diagnosis

/-! ## Running commands -/

section Running

variable {σ : Type} (start : Command → Act σ (Except Ending String))
  (kind : FaultClass) (c : Command) (s : σ)

/-- What a caller that names a class of fault gets from what was told. -/
def given : Except Failure (Except Ending String) → Except Failure String
  | .ok (.ok stdout) => .ok stdout
  | .ok (.error ending) => .error (ending.failure c kind)
  | .error e => .error e

theorem run_commandBy : (commandBy start kind c).run s =
    ⟨.log .debug c.announcement :: ((start c).run s).events,
      ((start c).run s).state, given kind c ((start c).run s).outcome⟩ := by
  rw [commandBy, Act.debug, Act.run_bind, Act.run_emit, Act.run_bind]
  -- The start fails, or it tells of an end that is no success, or it returns
  -- what was written.
  rcases (start c).run s with ⟨events, t, e | ending | stdout⟩
  · rfl
  · simp only [Act.run_fail, List.append_nil, given]
    rfl
  · simp only [Act.run_pure, List.append_nil, given]
    rfl

variable {kind} {fate : Fate} {r : Except Failure String}

theorem keepsStage_of_fault {f : Fault} (hr : r = .error (.fault f))
    (hn : ¬fate.Succeeded) (hstage : f.stage = kind.stage)
    (hcause : ∃ cause, f.cause = some cause ∧ fate.Causes cause)
    (hcancelled : f.kind = .cancelled ↔ fate = .expired)
    (hkind : fate ≠ .expired → f.kind = kind)
    (hworded : ∀ status stdout stderr, fate.Failed status stdout stderr →
      ∃ front text, f.message = front ++ text ∧
        Diagnosis status stdout stderr text) :
    KeepsStage kind fate r where
  returns := by
    have hnot (text : String) : r ≠ .ok text := by
      rw [hr]
      exact nofun
    refine ⟨iff_of_false ?_ hn, fun text h => absurd h (hnot text)⟩
    rintro ⟨text, h⟩
    exact hnot text h
  raises _ := by
    refine ⟨f, hr, hstage, hcause, hcancelled, hkind, ?_⟩
    intro status stdout stderr hf
    obtain ⟨front, text, hm, hd⟩ := hworded status stdout stderr hf
    exact ⟨front, text, hm, hd, hd.ne_empty_and_isTrimmed⟩

theorem keepsStage_of_failed {status : Int} {stdout stderr : Output}
    (hk : kind ≠ .cancelled) (hf : fate.Failed status stdout stderr) :
    KeepsStage kind fate (given kind c fate.told) := by
  rw [hf.told]
  refine keepsStage_of_fault rfl hf.not_succeeded rfl ⟨_, rfl, .failed hf⟩
    ?_ (fun _ => rfl) ?_
  · exact iff_of_false hk hf.ne_expired
  · intro status' stdout' stderr' hf'
    obtain ⟨rfl, rfl, rfl⟩ := hf.unique hf'
    refine ⟨kind.stage ++ ": " ++ (c.title ++ " failed: "), _, ?_,
      diagnosis_diagnostic _ _ _⟩
    simp only [Fault.message, String.append_assoc]

/-- What a caller gets has the stage of the class for every fate, if output that
is returned is text. -/
theorem keepsStage_given (hk : kind ≠ .cancelled) (h : fate.IsText) :
    KeepsStage kind fate (given kind c fate.told) := by
  cases fate with
  | missing =>
    refine keepsStage_of_fault rfl nofun rfl ⟨_, rfl, .missing⟩
      (iff_of_false hk nofun) (fun _ => rfl) ?_
    intro status stdout stderr hf
    cases hf
  | expired =>
    refine keepsStage_of_fault rfl nofun rfl ⟨_, rfl, .expired⟩
      (iff_of_true rfl rfl)
      (fun hn => absurd rfl hn) ?_
    intro status stdout stderr hf
    cases hf
  | exited n stdout stderr =>
    cases n with
    | zero =>
      have hs : (Fate.exited 0 stdout stderr).Succeeded := ⟨stdout, stderr, rfl⟩
      obtain ⟨text, _, _, heq, hread⟩ := h hs
      obtain ⟨-, rfl, -⟩ := Fate.exited.inj heq
      have hr : given kind c (Fate.exited 0 stdout stderr).told = .ok text := by
        rw [Fate.told, hread]
        rfl
      rw [hr]
      refine ⟨⟨iff_of_true ⟨text, rfl⟩ hs, ?_⟩, fun hn => absurd hs hn⟩
      intro text' h'
      obtain rfl := Except.ok.inj h'
      exact ⟨stdout, stderr, rfl, hread⟩
    | succ n => exact keepsStage_of_failed c hk (.exited (Nat.succ_ne_zero n))
  | killed signal stdout stderr => exact keepsStage_of_failed c hk .killed

/-- A command starts its process once, and it keeps the stage of the class that
the caller names, whatever becomes of the process. -/
theorem commandBy_keepsStage (hk : kind ≠ .cancelled)
    (hs : ((start c).run s).outcome = fate.told) (ht : fate.IsText) :
    let x := (start c).run s
    let r := (commandBy start kind c).run s
    r.events = .log .debug c.announcement :: x.events ∧ r.state = x.state ∧
      KeepsStage kind fate r.outcome := by
  intro x r
  have hr :
      r = ⟨.log .debug c.announcement :: x.events, x.state,
      given kind c x.outcome⟩ :=
    run_commandBy start kind c s
  rw [hr, show x.outcome = fate.told from hs]
  exact ⟨rfl, rfl, keepsStage_given c hk ht⟩

end Running

/-- Every process is killed by the signal 9, after it wrote a word and then a
byte that is not text. -/
def startDying (c : Command) : Act Machine (Except Ending String) := do
  Act.emit (.run c.words c.timeout c.input c.config)
  return .error (.status (-9) (.text "done\n") (.raw [0x20, 0xff, 0x0a]))

/-- Such a process is a failed installation, and what it wrote as an error is
said about it. -/
theorem commandBy_keepsStage_startDying :
    let fate := Fate.killed 9 (.text "done\n") (.raw [0x20, 0xff, 0x0a])
    let c : Command := { program := "helm", args := ["upgrade"], timeout := 5 }
    let r := (commandBy startDying .install c).run { tree := .empty [] }
    FaultClass.install ≠ .cancelled ∧
    ((startDying c).run { tree := .empty [] }).outcome = fate.told ∧
      fate.IsText ∧ KeepsStage .install fate r.outcome ∧
      ∃ f, r.outcome = .error (.fault f) ∧
        f.message = "install: 'helm upgrade' failed: \ufffd" := by
  intro fate c r
  have hk : FaultClass.install ≠ .cancelled := by decide
  have hs : ((startDying c).run { tree := .empty [] }).outcome = fate.told :=
    rfl
  have ht : fate.IsText := Fate.isText_of_not_succeeded nofun
  obtain ⟨-, -, hkeeps⟩ :=
    commandBy_keepsStage startDying c { tree := .empty [] } hk hs ht
  exact ⟨hk, hs, ht, hkeeps, _, rfl, by decide +kernel⟩

/-! ## Commands on a machine -/

/-- What a reply of the machine means for the process.  An interruption by the
user is no fate of it. -/
inductive Befalls : Option Reply → Fate → Prop
  | missing : Befalls none .missing
  | succeeds (stdout stderr : Output) :
      Befalls (some (.succeeds stdout)) (.exited 0 stdout stderr)
  | exits {n : Nat} (stdout stderr : Output) :
      n ≠ 0 → Befalls (some (.exits n stdout stderr)) (.exited n stdout stderr)
  | killed (signal : Nat) (stdout stderr : Output) :
      Befalls (some (.killed signal stdout stderr))
        (.killed signal stdout stderr)
  | vanishes : Befalls (some .vanishes) .missing
  | expires : Befalls (some .expires) .expired

/-- A machine is a way of starting processes. -/
theorem outcome_execute {c : Command} {m : Machine} {fate : Fate}
    (h : Befalls (m.shell.reply? c) fate) :
    ((execute c).run m).outcome = fate.told := by
  rw [Shell.reply?, shell] at h
  cases hm : m.missing.contains c.program with
  | true =>
    rw [if_pos hm] at h
    simp only [execute, Act.run_bind, Act.run_emit, Act.run_get, hm, if_true,
      Act.run_pure]
    cases h with
    | missing => rfl
  | false =>
    have hreply : Befalls (some (Rule.answer c.words m.rules).1) fate := by
      rwa [if_neg (ne_of_eq_of_ne hm Bool.false_ne_true)] at h
    simp only [execute, Act.run_bind, Act.run_emit, Act.run_get, hm,
      Bool.false_eq_true, if_false, Act.run_modify]
    generalize Rule.answer c.words m.rules = answered at hreply ⊢
    obtain ⟨reply, rules⟩ := answered
    cases hreply with
    | succeeds stdout =>
      simp only [map_eq_pure_bind, Act.run_bind, Act.run_ofExcept, Fate.told]
      cases stdout.read <;> rfl
    | @exits n stdout stderr hn =>
      obtain ⟨k, rfl⟩ := Nat.exists_eq_succ_of_ne_zero hn
      rfl
    | killed | vanishes | expires => rfl

theorem command_keeps {kind : FaultClass} {c : Command} {m : Machine}
    {fate : Fate} (hk : kind ≠ .cancelled) (h : Befalls (m.shell.reply? c) fate)
    (ht : fate.IsText) :
    KeepsStage kind fate ((command kind c).run m).outcome := by
  rw [command, run_commandBy, outcome_execute h]
  exact keepsStage_given c hk ht

end Machine

end SingleNode
