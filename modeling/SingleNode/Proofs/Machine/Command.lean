/-
# What a command does to a machine

A command is one exchange with the machine: it leaves one deed, gets one answer,
and uses up one application of the rule that gave it (`run_silent_command`).
Nothing else of the machine changes, so the container engine, the ports, the
files and the connection are the same before and after any number of commands.

A list of commands is run one after another until one fails, unless its failure
is tolerated.  The exchanges of such a run follow the list (`carried_runAll`).
-/
import SingleNode.Machine.Command
import SingleNode.Proofs.Act.Deeds
import SingleNode.Proofs.Act.Only
import SingleNode.Proofs.Plan

namespace SingleNode

theorem Event.isMessage_of_isCommand (e : Event) (h : e.isCommand = true) :
    e.isMessage = false := by
  cases e with
  | run | missingCommand => rfl
  | _ => exact nomatch h

theorem Event.isMessage_of_isBrowser (e : Event) (h : e.isBrowser = true) :
    e.isMessage = false := by
  cases e with
  | browser => rfl
  | _ => exact nomatch h

namespace Machine

/-- The deed of a command: it is run, or there is no such program. -/
def attempt (m : Machine) (c : Command) : Event :=
  if m.missing.contains c.program then .missingCommand c.program
  else .run c.words c.timeout c.input c.config

@[simp] theorem isCommand_attempt (m : Machine) (c : Command) :
    (m.attempt c).isCommand = true := by
  rw [attempt]
  split <;> rfl

@[simp] theorem isBrowser_attempt (m : Machine) (c : Command) :
    (m.attempt c).isBrowser = false := by
  rw [attempt]
  split <;> rfl

@[simp] theorem program?_attempt (m : Machine) (c : Command) :
    (m.attempt c).program? = some c.program := by
  rw [attempt]
  split <;> rfl

def after (m : Machine) (c : Command) : Machine :=
  if m.missing.contains c.program then m
  else { m with rules := (Rule.answer c.words m.rules).2 }

/-- What a caller that names a class of fault gets from a reply. -/
def received (kind : FaultClass) (c : Command) : Reply → Except Failure String
  | .succeeds stdout => stdout.read
  | .exits n stdout stderr =>
    .error ((Ending.status n stdout stderr).failure c kind)
  | .killed signal stdout stderr =>
    .error ((Ending.status (-signal) stdout stderr).failure c kind)
  | .vanishes => .error (Ending.missing.failure c kind)
  | .expires => .error (Ending.expired.failure c kind)
  | .interrupted => .error (.plain .interrupt none)

def answer (kind : FaultClass) (m : Machine) (c : Command) :
    Except Failure String :=
  if m.missing.contains c.program then .error (Ending.missing.failure c kind)
  else received kind c (Rule.answer c.words m.rules).1

/-- What is said about a command before it is run. -/
def Command.announcement (c : Command) : String :=
  "running: " ++ c.program ++ " " ++ String.intercalate " " c.args

theorem run_command (kind : FaultClass) (c : Command) (m : Machine) :
    (command kind c).run m =
      ⟨[.log .debug c.announcement, m.attempt c], m.after c,
        m.answer kind c⟩ := by
  cases h : m.missing.contains c.program with
  | true =>
    simp only [command, commandBy, execute, Act.debug, Act.run_bind,
      Act.run_emit, Act.run_get, h, if_true,
      Act.run_pure, Act.run_fail, attempt, after, answer]
    rfl
  | false =>
    simp only [command, commandBy, execute, Act.debug, Act.run_bind,
      Act.run_emit, Act.run_get, h,
      Bool.false_eq_true, if_false, Act.run_modify, attempt, after, answer]
    rcases Rule.answer c.words m.rules with ⟨reply, rules⟩
    cases reply with
    | succeeds stdout =>
      simp only [map_eq_pure_bind, Act.run_bind, Act.run_ofExcept, received]
      cases stdout.read <;> rfl
    | _ => rfl

/-- Without its announcement a command is one deed, one answer, and one use of a
rule. -/
theorem run_silent_command (kind : FaultClass) (c : Command) (m : Machine) :
    (command kind c).silent.run m =
      ⟨[m.attempt c], m.after c, m.answer kind c⟩ := by
  have hc : (m.attempt c).isMessage = false :=
    Event.isMessage_of_isCommand _ (isCommand_attempt m c)
  have ha : (Event.log .debug c.announcement).isMessage = true := rfl
  simp [Act.run_silent, run_command, deeds, hc, ha]

/-! ## What a command leaves alone -/

section Frame

variable (m : Machine) (c : Command)

@[simp] theorem after_missing : (m.after c).missing = m.missing := by
  simp only [after]
  split <;> rfl

@[simp] theorem after_engine : (m.after c).engine = m.engine := by
  simp only [after]
  split <;> rfl

@[simp] theorem after_busyPorts : (m.after c).busyPorts = m.busyPorts := by
  simp only [after]
  split <;> rfl

@[simp] theorem after_tree : (m.after c).tree = m.tree := by
  simp only [after]
  split <;> rfl

@[simp] theorem after_connection : (m.after c).connection = m.connection := by
  simp only [after]
  split <;> rfl

end Frame

/-! ## Exchanges -/

/-- A command with its deed and its answer. -/
structure Exchange where
  command : Command
  deed : Event
  answer : Except Failure String

def exchange (kind : FaultClass) (m : Machine) (c : Command) : Exchange :=
  ⟨c, m.attempt c, m.answer kind c⟩

/-- The machines before and after exchanges, each of which starts where the last
one ended. -/
inductive Exchanged (kind : FaultClass) : Machine → List Exchange →
    Machine → Prop
  | nil (m : Machine) : Exchanged kind m [] m
  | cons {m m' : Machine} (c : Command) {log : List Exchange} :
      Exchanged kind (m.after c) log m' →
      Exchanged kind m (m.exchange kind c :: log) m'

theorem Exchanged.append {kind : FaultClass} {m m' m'' : Machine}
    {log more : List Exchange} (h : Exchanged kind m log m')
    (h' : Exchanged kind m' more m'') :
    Exchanged kind m (log ++ more) m'' := by
  induction h with
  | nil m => exact h'
  | cons c _ ih => exact .cons c (ih h')

theorem Exchanged.exists_of_mem {kind : FaultClass} {m m' : Machine}
    {log : List Exchange} (h : Exchanged kind m log m') {x : Exchange}
    (hx : x ∈ log) :
    ∃ n : Machine, x = n.exchange kind x.command := by
  induction h with
  | nil m => exact nomatch hx
  | @cons m _ c _ _ ih =>
    rcases List.mem_cons.mp hx with rfl | hx
    · exact ⟨m, rfl⟩
    · exact ih hx

theorem Exchanged.exists_attempt {kind : FaultClass} {m m' : Machine}
    {log : List Exchange} (h : Exchanged kind m log m') {x : Exchange}
    (hx : x ∈ log) :
    ∃ n : Machine, x.deed = n.attempt x.command := by
  obtain ⟨n, hn⟩ := h.exists_of_mem hx
  exact ⟨n, congrArg Exchange.deed hn⟩

theorem Exchanged.filter_isCommand {kind : FaultClass} {m m' : Machine}
    {log : List Exchange} (h : Exchanged kind m log m') :
    (log.map Exchange.deed).filter Event.isCommand = log.map Exchange.deed := by
  rw [List.filter_eq_self]
  intro e he
  obtain ⟨x, hx, rfl⟩ := List.mem_map.mp he
  obtain ⟨n, hn⟩ := h.exists_attempt hx
  rw [hn, isCommand_attempt]

theorem Exchanged.filter_isBrowser {kind : FaultClass} {m m' : Machine}
    {log : List Exchange} (h : Exchanged kind m log m') :
    (log.map Exchange.deed).filter Event.isBrowser = [] := by
  rw [List.filter_eq_nil_iff]
  intro e he
  obtain ⟨x, hx, rfl⟩ := List.mem_map.mp he
  obtain ⟨n, hn⟩ := h.exists_attempt hx
  rw [hn, isBrowser_attempt]
  exact Bool.false_ne_true

def Command.ran (c : Command) : Event := .run c.words c.timeout c.input c.config

theorem attempt_of_answer {kind : FaultClass} {m : Machine} {c : Command}
    {stdout : String} (h : m.answer kind c = .ok stdout) :
    m.attempt c = c.ran := by
  cases hm : m.missing.contains c.program with
  | true =>
    rw [answer, if_pos hm] at h
    exact nomatch h
  | false =>
    rw [attempt, if_neg (ne_of_eq_of_ne hm Bool.false_ne_true)]
    rfl

section Tolerated

variable (tolerated : Command → Failure → Bool)

/-- The failure that ends a run, if the answer is one that is not tolerated. -/
def Exchange.failure? (x : Exchange) : Option Failure :=
  match x.answer with
  | .ok _ => none
  | .error e => if tolerated x.command e then none else some e

variable {tolerated} in
theorem Exchange.failure?_of_ok {x : Exchange} {stdout : String}
    (h : x.answer = .ok stdout) :
    x.failure? tolerated = none := by
  rw [Exchange.failure?, h]

variable {tolerated} in
theorem Exchange.failure?_of_error {x : Exchange} {e : Failure}
    (h : x.answer = .error e) (ht : tolerated x.command e = false) :
    x.failure? tolerated = some e := by
  rw [Exchange.failure?, h]
  exact if_neg (ne_of_eq_of_ne ht Bool.false_ne_true)

/-- Holds if a run goes on after the exchange. -/
def Exchange.passes (x : Exchange) : Prop := x.failure? tolerated = none

variable {tolerated} in
theorem Exchanged.deed_of_passes {kind : FaultClass} {m m' : Machine}
    {log : List Exchange} (h : Exchanged kind m log m') {x : Exchange}
    (hx : x ∈ log) (hp : x.passes tolerated)
    (ht : ∀ e, tolerated x.command e = false) : x.deed = x.command.ran := by
  obtain ⟨n, hn⟩ := h.exists_of_mem hx
  cases ha : x.answer with
  | error e =>
    exact absurd (Exchange.failure?_of_error ha (ht e))
      (ne_of_eq_of_ne hp nofun)
  | ok stdout =>
    rw [hn] at ha ⊢
    exact attempt_of_answer ha

/-- How a run with the given exchanges ends. -/
def verdict (log : List Exchange) : Except Failure Unit :=
  match log.findSome? (Exchange.failure? tolerated) with
  | some e => .error e
  | none => .ok ()

theorem verdict_cons (x : Exchange) (log : List Exchange) :
    verdict tolerated (x :: log) =
      match x.failure? tolerated with
      | some e => .error e
      | none => verdict tolerated log := by
  simp only [verdict, List.findSome?_cons]
  cases x.failure? tolerated <;> rfl

theorem verdict_append {log : List Exchange} (h : ∀ x ∈ log, x.passes tolerated)
    (more : List Exchange) :
    verdict tolerated (log ++ more) = verdict tolerated more := by
  induction log with
  | nil => rfl
  | cons x rest ih =>
    have hx : x.failure? tolerated = none := h x List.mem_cons_self
    rw [List.cons_append, verdict_cons, hx]
    exact ih fun y hy => h y (List.mem_cons_of_mem _ hy)

theorem verdict_eq_ok_iff {log : List Exchange} :
    verdict tolerated log = .ok () ↔ ∀ x ∈ log, x.passes tolerated := by
  rw [verdict]
  cases h : log.findSome? (Exchange.failure? tolerated) with
  | none => simpa [Exchange.passes] using h
  | some e =>
    obtain ⟨x, hx, he⟩ := List.exists_of_findSome?_eq_some h
    constructor
    · exact fun h => nomatch h
    · intro hall
      exact absurd ((hall x hx).symm.trans he) (Option.some_ne_none e).symm

/-- Runs a command whose output is of no interest. A tolerated failure does not
count. -/
def perform (kind : FaultClass) (c : Command) : Act Machine Unit :=
  Act.handle (command kind c >>= fun _ => pure ()) fun e =>
    if tolerated c e then pure () else Act.fail e

/-- Runs commands in order, until one fails with a failure that is not
tolerated. -/
def runAll (kind : FaultClass) (plan : List Command) : Act Machine Unit :=
  Act.forEach plan (perform tolerated kind)

theorem run_silent_perform (kind : FaultClass) (c : Command) (m : Machine) :
    (perform tolerated kind c).silent.run m =
      ⟨[m.attempt c], m.after c, verdict tolerated [m.exchange kind c]⟩ := by
  rw [perform, Act.silent_handle, Act.run_handle]
  simp only [Act.silent_bind, Act.run_bind, run_silent_command, Act.silent_pure,
    Act.run_pure,
    List.append_nil, verdict, List.findSome?_cons, List.findSome?_nil,
      Exchange.failure?, exchange]
  cases m.answer kind c with
  | ok stdout => rfl
  | error e =>
    cases h : tolerated c e <;> simp [h]

/-- The report of a run whose exchanges follow a plan, with no other deeds. -/
structure Carried (kind : FaultClass) (m : Machine) (plan : List Command)
    (log : List Exchange) (r : Report Machine Unit) : Prop where
  events : r.events = log.map Exchange.deed
  outcome : r.outcome = verdict tolerated log
  exchanged : Exchanged kind m log r.state
  follows : Follows Exchange.command (Exchange.passes tolerated) plan log

variable {tolerated}

theorem Carried.nothing (kind : FaultClass) (m : Machine) :
    Carried tolerated kind m [] [] ((pure () : Act Machine Unit).run m) :=
  ⟨rfl, rfl, .nil m, .done⟩

theorem carried_perform (kind : FaultClass) (c : Command) (m : Machine) :
    Carried tolerated kind m [c] [m.exchange kind c]
      ((perform tolerated kind c).silent.run m) := by
  rw [run_silent_perform]
  refine ⟨rfl, rfl, .cons c (.nil _), Follows.cons_iff.mpr ⟨rfl, ?_⟩⟩
  by_cases h : (m.exchange kind c).passes tolerated
  · exact .inl ⟨h, .done⟩
  · exact .inr ⟨h, rfl⟩

theorem Carried.cons {kind : FaultClass} {m : Machine} {c : Command}
    {plan : List Command} {log : List Exchange} {r : Report Machine Unit}
    (hp : (m.exchange kind c).passes tolerated)
    (h : Carried tolerated kind (m.after c) plan log r) :
    Carried tolerated kind m (c :: plan) (m.exchange kind c :: log)
      ⟨m.attempt c :: r.events, r.state, r.outcome⟩ := by
  refine ⟨?_, ?_, .cons c h.exchanged,
    Follows.cons_iff.mpr ⟨rfl, .inl ⟨hp, h.follows⟩⟩⟩
  · rw [List.map_cons, ← h.events]
    rfl
  · rw [verdict_cons, hp]
    exact h.outcome

/-- Plans are carried one after the other, the second only if the first came to
its end. -/
theorem Carried.bind {kind : FaultClass} {m : Machine} {p q : List Command}
    {log more : List Exchange} {x y : Act Machine Unit}
    (hx : Carried tolerated kind m p log (x.run m))
    (hy : Carried tolerated kind (x.run m).state q more
      (y.run (x.run m).state)) :
    ∃ rest, (rest = [] ∨ rest = more) ∧
      Carried tolerated kind m (p ++ q) (log ++ rest)
        ((x >>= fun _ => y).run m) := by
  obtain ⟨he, ho, hxe, hxf⟩ := hx
  rw [Act.run_bind]
  rcases hr : x.run m with ⟨es, t, e | u⟩
  · simp only [hr] at he ho hxe
    refine ⟨[], .inl rfl, ?_⟩
    rw [List.append_nil]
    refine ⟨he, ho, hxe, hxf.append_of_stopped ?_⟩
    rcases hxf.map_eq_or_getLast? with ⟨-, hall⟩ | hlast
    · exact nomatch ho.trans ((verdict_eq_ok_iff tolerated).mpr hall)
    · exact hlast
  · simp only [hr] at he ho hxe hy
    have hall := (verdict_eq_ok_iff tolerated).mp ho.symm
    refine ⟨more, .inr rfl, ?_, ?_, hxe.append hy.exchanged,
      hxf.append hall hy.follows⟩
    · rw [List.map_append, ← he, ← hy.events]
    · rw [verdict_append tolerated hall]
      exact hy.outcome

/-- The deeds of a run are those of its exchanges, which follow the plan. -/
theorem carried_runAll (kind : FaultClass) (plan : List Command) (m : Machine) :
    ∃ log,
      Carried tolerated kind m plan log
      ((runAll tolerated kind plan).silent.run m) := by
  rw [runAll, Act.silent_forEach]
  induction plan generalizing m with
  | nil => exact ⟨[], .nothing kind m⟩
  | cons c rest ih =>
    obtain ⟨more, hmore⟩ := ih ((perform tolerated kind c).silent.run m).state
    obtain ⟨rest, -, h⟩ := (carried_perform kind c m).bind hmore
    exact ⟨_, h⟩

end Tolerated

end Machine

end SingleNode
