/-
# The shell of a machine

Which replies the commands get depends on two parts of a machine only: the rules
and the programs that are missing.  A `Shell` is these two, and `dialogue` gives
the replies to commands that are given one after the other.  What an
installation does between its commands does not change the shell, so all its
commands and their replies are one dialogue with the shell of the machine that
it started on.
-/
import SingleNode.Proofs.Chart.Installation
import SingleNode.Proofs.Machine.Lasting

namespace SingleNode

/-- What decides the replies to commands. -/
structure Shell where
  rules : List Rule
  missing : List String

namespace Shell

open Machine (Command)

/-- The reply to a command; there is none if there is no such program. -/
def reply? (s : Shell) (c : Command) : Option Reply :=
  if s.missing.contains c.program then none
    else some (Rule.answer c.words s.rules).1

def after (s : Shell) (c : Command) : Shell :=
  if s.missing.contains c.program then s
    else { s with rules := (Rule.answer c.words s.rules).2 }

/-- Commands with the replies that they get if they are given one after the
other. -/
def dialogue : Shell → List Command → List (Command × Option Reply)
  | _, [] => []
  | s, c :: rest => (c, s.reply? c) :: dialogue (s.after c) rest

theorem dialogue_append (s : Shell) (cs ds : List Command) :
    s.dialogue (cs ++ ds) = s.dialogue cs ++
      (cs.foldl after s).dialogue ds := by
  induction cs generalizing s with
  | nil => rfl
  | cons c rest ih =>
    rw [List.cons_append, dialogue, ih, dialogue, List.cons_append,
      List.foldl_cons]

theorem map_fst_dialogue (s : Shell) (cs : List Command) :
    (s.dialogue cs).map Prod.fst = cs := by
  induction cs generalizing s with
  | nil => rfl
  | cons c rest ih => rw [dialogue, List.map_cons, ih]

end Shell

namespace Machine

def shell (m : Machine) : Shell := ⟨m.rules, m.missing⟩

theorem shell_after (m : Machine) (c : Command) :
    (m.after c).shell = m.shell.after c := by
  by_cases hm : c.program ∈ m.missing <;> simp [after, shell, Shell.after, hm]

theorem lasting_shell (s : Shell) : Lasting fun m => m.shell = s where
  tree _ _ h := h
  connect m h := by
    rw [state_connect]
    exact h

/-- The exchange that a command with a reply is. -/
def Exchange.heard (kind : FaultClass) : Command × Option Reply → Exchange
  | (c, none) =>
    ⟨c, .missingCommand c.program, .error (Ending.missing.failure c kind)⟩
  | (c, some reply) => ⟨c, c.ran, received kind c reply⟩

@[simp] theorem Exchange.command_heard (kind : FaultClass)
    (x : Command × Option Reply) :
    (heard kind x).command = x.1 := by
  obtain ⟨c, _ | reply⟩ := x <;> rfl

theorem Exchange.deed_heard (kind : FaultClass) {x : Command × Option Reply}
    {reply : Reply} (h : x.2 = some reply) : (heard kind x).deed = x.1.ran := by
  obtain ⟨c, _⟩ := x
  obtain rfl := h
  rfl

theorem exchange_eq_heard (kind : FaultClass) (m : Machine) (c : Command) :
    m.exchange kind c = .heard kind (c, m.shell.reply? c) := by
  by_cases hm : c.program ∈ m.missing <;>
    simp [exchange, attempt, answer, Shell.reply?, shell, Exchange.heard,
      Command.ran, hm]

/-- Exchanges with a machine are a dialogue with its shell. -/
theorem Exchanged.eq_heard {kind : FaultClass} {m m' : Machine}
    {log : List Exchange} (h : Exchanged kind m log m') :
    log = (m.shell.dialogue (log.map Exchange.command)).map (.heard kind) ∧
      m'.shell = (log.map Exchange.command).foldl Shell.after m.shell := by
  induction h with
  | nil m => exact ⟨rfl, rfl⟩
  | @cons m m' c log h ih =>
    rw [shell_after] at ih
    obtain ⟨hlog, hm'⟩ := ih
    refine ⟨?_, hm'⟩
    rw [List.map_cons, Shell.dialogue, List.map_cons]
    exact List.cons_eq_cons.mpr ⟨exchange_eq_heard kind m c, hlog⟩

theorem Exchange.reply_of_answer {kind : FaultClass}
    {x : Command × Option Reply} {text : String}
    (h : (heard kind x).answer = .ok text) :
    ∃ stdout, x.2 = some (.succeeds stdout) ∧ stdout.read = .ok text := by
  obtain ⟨c, _ | reply⟩ := x
  · exact nomatch h
  · cases reply with
    | succeeds stdout => exact ⟨stdout, rfl, h⟩
    | _ => exact nomatch h

theorem reply_of_answer {kind : FaultClass} {m : Machine} {c : Command}
    {text : String} (h : m.answer kind c = .ok text) :
    ∃ stdout, m.shell.reply? c = some (.succeeds stdout) ∧
      stdout.read = .ok text := by
  have hx : (m.exchange kind c).answer = .ok text := h
  rw [exchange_eq_heard] at hx
  exact Exchange.reply_of_answer hx

/-- The command exited with the status 0. -/
def Succeeded (x : Command × Option Reply) : Prop :=
  ∃ stdout, x.2 = some (.succeeds stdout)

/-! ## Commands among other deeds -/

/-- The deeds between two machines are the given commands, apart from what is no
command. -/
structure Ran (m : Machine) (d : List Event) (cs : List Command)
    (m' : Machine) : Prop where
  deeds : d.filter Event.isCommand = cs.map Command.ran
  shell : m'.shell = cs.foldl Shell.after m.shell

namespace Ran

theorem nothing {m m' : Machine} {d : List Event} (hd : ∀ e ∈ d, e.IsRequest)
    (hm : m'.shell = m.shell) : Ran m d [] m' :=
  ⟨Event.filter_isCommand_of_requests hd, hm⟩

theorem command {kind : FaultClass} {m : Machine} {c : Command} {text : String}
    (h : m.answer kind c = .ok text) : Ran m [m.attempt c] [c] (m.after c) := by
  refine ⟨?_, m.shell_after c⟩
  rw [attempt_of_answer h]
  rfl

theorem append {m m' m'' : Machine} {d d' : List Event} {cs cs' : List Command}
    (h : Ran m d cs m') (h' : Ran m' d' cs' m'') :
    Ran m (d ++ d') (cs ++ cs') m'' := by
  refine ⟨?_, ?_⟩
  · rw [List.filter_append, h.deeds, h'.deeds, List.map_append]
  · rw [h'.shell, h.shell, List.foldl_append]

theorem dialogue_append {m m' : Machine} {d : List Event} {cs : List Command}
    (h : Ran m d cs m') (ds : List Command) :
    m.shell.dialogue
    (cs ++ ds) = m.shell.dialogue cs ++ m'.shell.dialogue ds := by
  rw [Shell.dialogue_append, h.shell]

end Ran

/-- The process did not succeed, and left a status and what it wrote. -/
inductive Leaves : Option Reply → Int → Output → Output → Prop
  | exited (status : Nat) (stdout stderr : Output) :
      Leaves (some (.exits status stdout stderr)) status stdout stderr
  | killed (signal : Nat) (stdout stderr : Output) :
      Leaves (some (.killed signal stdout stderr)) (-signal) stdout stderr

theorem Leaves.exists_reply {reply? : Option Reply} {n : Int}
    {stdout stderr : Output} (h : Leaves reply? n stdout stderr) :
    ∃ reply, reply? = some reply := by
  cases h <;> exact ⟨_, rfl⟩

end Machine

/-! ## Installing the charts -/

namespace Chart.Target

open Installation (Options)
open Machine (Command Ending Exchange Ran Succeeded)

variable (t : Target)

theorem occursIn_iff {needle hay : List Char} :
    occursIn needle hay = true ↔ needle <:+: hay := by
  induction hay with
  | nil => simp [occursIn]
  | cons c rest ih =>
    rw [occursIn, Bool.or_eq_true, ih, List.isPrefixOf_iff_prefix,
      List.infix_cons_iff]

/-- The command is that for the namespace, and failed because this is there
already. -/
def NamespaceThere (x : Command × Option Reply) : Prop :=
  x.1 = t.namespaceCommand ∧
  ∃ n stdout stderr, Machine.Leaves x.2 n stdout stderr ∧
    "AlreadyExists".toList <:+:
      ((Ending.status n stdout stderr).failure t.namespaceCommand
        .install).message.toList

variable {t}

theorem infix_of_saysAlreadyExists {e : Failure}
    (h : saysAlreadyExists e = true) :
    "AlreadyExists".toList <:+: e.message.toList := by
  cases e with
  | fault f =>
    rw [saysAlreadyExists, Bool.and_eq_true] at h
    exact occursIn_iff.mp h.2
  | _ => exact nomatch h

theorem saysAlreadyExists_missing :
    saysAlreadyExists (Ending.missing.failure t.namespaceCommand .install) =
      false := by
  show saysAlreadyExists (.because .install
    "Required command 'kubectl' not found. Please install it first."
      .commandMissing) = false
  decide +kernel

/-- The one failure of a command that says that something is there already comes
from its status. -/
theorem exits_of_saysAlreadyExists {reply : Option Reply} {e : Failure}
    (ha : (Exchange.heard .install (t.namespaceCommand, reply)).answer =
      .error e) (he : saysAlreadyExists e = true) :
    t.NamespaceThere (t.namespaceCommand, reply) := by
  have missed {p : Prop}
      (h : Ending.missing.failure t.namespaceCommand .install = e) : p := by
    rw [← h, saysAlreadyExists_missing] at he
    exact nomatch he
  refine ⟨rfl, ?_⟩
  cases reply with
  | none =>
    exact missed (Except.error.inj ha)
  | some reply =>
    cases reply with
    | succeeds stdout =>
      obtain ⟨text⟩ | ⟨bytes⟩ := stdout
      · exact nomatch ha
      · change (Text.readUtf8 bytes).mapError (Failure.undecodable bytes) =
          .error e at ha
        cases hb : Text.readUtf8 bytes with
        | ok text => exact nomatch hb ▸ ha
        | error damage =>
          rw [hb] at ha
          obtain rfl := Except.error.inj ha
          exact nomatch he
    | exits n stdout stderr =>
      obtain rfl := Except.error.inj ha
      exact ⟨n, stdout, stderr, .exited n stdout stderr,
        infix_of_saysAlreadyExists he⟩
    | killed signal stdout stderr =>
      obtain rfl := Except.error.inj ha
      exact ⟨-signal, stdout, stderr, .killed signal stdout stderr,
        infix_of_saysAlreadyExists he⟩
    | vanishes =>
      exact missed (Except.error.inj ha)
    | expires =>
      obtain rfl := Except.error.inj ha
      exact nomatch he
    | interrupted =>
      obtain rfl := Except.error.inj ha
      exact nomatch he

/-- A run goes on after a command only if that exited with the status 0, or if
the namespace is there already. -/
theorem succeeded_of_passes {x : Command × Option Reply}
    (h : (Exchange.heard .install x).passes t.tolerated) :
    Succeeded x ∨ t.NamespaceThere x := by
  cases ha : (Exchange.heard .install x).answer with
  | ok text =>
    obtain ⟨stdout, hx, -⟩ := Exchange.reply_of_answer ha
    exact .inl ⟨stdout, hx⟩
  | error e =>
    have ht : t.tolerated (Exchange.heard .install x).command e = true := by
      by_contra hn
      have hf := Exchange.failure?_of_error ha (by simpa using hn)
      exact nomatch h.symm.trans hf
    rw [Exchange.command_heard, tolerated, Bool.and_eq_true,
      decide_eq_true_iff] at ht
    obtain ⟨c, reply⟩ := x
    obtain ⟨rfl, he⟩ := ht
    exact .inr (exits_of_saysAlreadyExists ha he)

/-! ## The commands of an installation -/

variable (t)

/-- The commands of an installation that returns are the plan, and the run went
on after each. -/
theorem ran_of_install {o : Options} {m m' : Machine} {d : List Event}
    {u : Unit} (h : (t.install o).silent.run m = ⟨d, m', .ok u⟩) :
    ∃ manifest, Ran m d (t.plan o manifest) m' ∧
      ∀ x ∈ m.shell.dialogue (t.plan o manifest), Succeeded x ∨
        t.NamespaceThere x := by
  rw [Act.run_silent] at h
  obtain ⟨hd, hm', hr⟩ := Report.mk.inj h
  cases hf : missingFile? m o with
  | some file =>
    rw [t.run_install_of_missing o hf] at hr
    exact nomatch hr
  | none =>
    rcases t.run_install_of_found o hf
      with ⟨e, -, -, -, he⟩ | ⟨-, manifest, log, hlog⟩
    · exact nomatch he.symm.trans hr
    have hshell : ((t.migrateIfAsked o).silent.run m).state.shell = m.shell :=
      (Machine.lasting_shell m.shell).traced.migrateIfAsked t o m rfl
    have hp := (Machine.verdict_eq_ok_iff _).mp (hlog.outcome.symm.trans hr)
    have hplan := hlog.follows.map_eq hp
    obtain ⟨heard, hafter⟩ := hlog.exchanged.eq_heard
    rw [hplan, hshell] at heard hafter
    have passed : ∀ x ∈ m.shell.dialogue (t.plan o manifest),
        Succeeded x ∨ t.NamespaceThere x := by
      intro x hx
      refine succeeded_of_passes (hp _ ?_)
      rw [heard]
      exact List.mem_map_of_mem hx
    have ran : ∀ x ∈ m.shell.dialogue (t.plan o manifest),
        (Exchange.heard .install x).deed = x.1.ran := by
      intro x hx
      rcases passed x hx with ⟨stdout, hr⟩ | ⟨-, n, stdout, stderr, hl, -⟩
      · exact Exchange.deed_heard .install hr
      · obtain ⟨reply, hr⟩ := hl.exists_reply
        exact Exchange.deed_heard .install hr
    have deeds :
        log.map Exchange.deed = (t.plan o manifest).map Command.ran := by
      rw [heard, List.map_map, ← m.shell.map_fst_dialogue (t.plan o manifest),
        List.map_map, Shell.map_fst_dialogue]
      exact List.map_congr_left ran
    have migrated :
        ((t.migrateIfAsked o).silent.run m).events.filter Event.isCommand =
          [] :=
      Event.filter_isCommand_of_requests fun e he =>
        t.only_migrateIfAsked o m e (mem_deeds.mp he).1
    have opened : (pageDeeds o (.ok u)).filter Event.isCommand = [] := by
      cases hb : o.noBrowser <;> simp [pageDeeds, hb, Event.isCommand]
    refine ⟨manifest, ⟨?_, hm' ▸ hafter⟩, passed⟩
    rw [← hd, hlog.deeds, List.filter_append, List.filter_append,
      migrated, hr, opened,
      hlog.exchanged.filter_isCommand, deeds, List.nil_append, List.append_nil]

end Chart.Target

end SingleNode
