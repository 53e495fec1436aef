/-
# The lifecycle of the connection

From the events alone it can be told whether there is a connection to the
container engine (`openAfter`): connecting makes one if the engine accepts it,
and closing it leaves none.  `Lifecycle` says that the events go with that:
nobody connects while there is a connection, and nobody asks or closes while
there is none.

Every run on a machine has these events (`Handled`), whatever the engine
answers.  So has every sequence of uses of one connection, between which the
machine and its engine may change (`lifecycle_useAll`).  A use that finds no
connection tries to make one before anything else (`Connects`, `events_use`).
-/
import SingleNode.Proofs.Machine.Connection
import SingleNode.Proofs.Machine.Traced

namespace SingleNode

/-- An event, and whether the engine accepted connections when it took place. -/
structure Moment where
  accepts : Bool
  event : Event

namespace Event

def isConnect : Event → Bool
  | .connect _ => true
  | _ => false

def isDisconnect : Event → Bool
  | .disconnect => true
  | _ => false

/-- The event goes with whether there is a connection. -/
def Fits (connected : Bool) (e : Event) : Prop :=
  (e.isConnect = true → connected = false) ∧
    ((e.isEngineRequest || e.isDisconnect) = true → connected = true)

theorem isConnect_of_request {e : Event} (h : e.isEngineRequest = true) :
    e.isConnect = false := by
  cases e with
  | connect => exact nomatch h
  | _ => rfl

theorem isDisconnect_of_request {e : Event} (h : e.isEngineRequest = true) :
    e.isDisconnect = false := by
  cases e with
  | disconnect => exact nomatch h
  | _ => rfl

theorem not_engine_of_message {e : Event} (h : e.isMessage = true) :
    e.isEngine = false := by
  cases e with
  | print | panel | log => rfl
  | _ => exact nomatch h

theorem fits_of_not_engine {e : Event} (h : e.isEngine = false)
    (connected : Bool) :
    e.Fits connected := by
  cases e with
  | connect | disconnect => exact nomatch h
  | engineVersion | inspectContainer | inspectVolume | runContainer =>
    exact nomatch h
  | _ => exact ⟨nofun, nofun⟩

end Event

namespace Moment

/-- Whether there is a connection after the event. -/
def after (connected : Bool) (x : Moment) : Bool :=
  if x.event.isConnect then x.accepts else if x.event.isDisconnect then false
    else connected

/-- Holds for an attempt to connect that succeeded. -/
def connects (x : Moment) : Bool := x.event.isConnect && x.accepts

def closes (x : Moment) : Bool := x.event.isDisconnect

theorem after_of_request {x : Moment} (h : x.event.isEngineRequest = true)
    (connected : Bool) :
    x.after connected = connected := by
  rw [after, Event.isConnect_of_request h, Event.isDisconnect_of_request h]
  rfl

theorem after_of_not_engine {x : Moment} (h : x.event.isEngine = false)
    (connected : Bool) :
    x.after connected = connected := by
  obtain ⟨accepts, e⟩ := x
  cases e with
  | connect | disconnect => exact nomatch h
  | _ => rfl

end Moment

def openAfter (connected : Bool) (xs : List Moment) : Bool :=
  xs.foldl Moment.after connected

/-- Each event goes with whether there is a connection when it takes place. -/
def Lifecycle (connected : Bool) : List Moment → Prop
  | [] => True
  | x :: rest => x.event.Fits connected ∧ Lifecycle (x.after connected) rest

theorem openAfter_append (connected : Bool) (xs ys : List Moment) :
    openAfter connected (xs ++ ys) = openAfter (openAfter connected xs) ys :=
  List.foldl_append

theorem lifecycle_append {connected : Bool} {xs ys : List Moment} :
    Lifecycle connected (xs ++ ys) ↔
      Lifecycle connected xs ∧ Lifecycle (openAfter connected xs) ys := by
  induction xs generalizing connected with
  | nil => exact (iff_of_eq (true_and _)).symm
  | cons x rest ih =>
    rw [List.cons_append, Lifecycle, Lifecycle, ih, and_assoc]
    rfl

theorem Lifecycle.fits {connected : Bool} {before after : List Moment}
    {x : Moment} (h : Lifecycle connected (before ++ x :: after)) :
    x.event.Fits (openAfter connected before) :=
  (lifecycle_append.mp h).2.1

/-- Connections that were made have been closed, but for the one that there
is. -/
theorem Lifecycle.count {connected : Bool} {xs : List Moment}
    (h : Lifecycle connected xs) :
    connected.toNat + xs.countP Moment.connects =
      xs.countP Moment.closes + (openAfter connected xs).toNat := by
  induction xs generalizing connected with
  | nil => exact (Nat.zero_add _).symm
  | cons x rest ih =>
    obtain ⟨accepts, e⟩ := x
    obtain ⟨⟨hconnect, hclose⟩, hrest⟩ := h
    have hcount := ih hrest
    rw [List.countP_cons, List.countP_cons]
    cases e with
    | connect timeout =>
      obtain rfl : connected = false := hconnect rfl
      show 0 + (rest.countP Moment.connects + if accepts then 1 else 0) =
        rest.countP Moment.closes + 0 + (openAfter accepts rest).toNat
      change accepts.toNat + rest.countP Moment.connects =
        rest.countP Moment.closes + (openAfter accepts rest).toNat at hcount
      cases accepts with
      | false => simpa using hcount
      | true =>
        rw [if_pos rfl]
        change 1 + _ = _ at hcount
        omega
    | disconnect =>
      obtain rfl : connected = true := hclose rfl
      show 1 + (rest.countP Moment.connects + 0) =
        rest.countP Moment.closes + 1 + (openAfter false rest).toNat
      change 0 + rest.countP Moment.connects =
        rest.countP Moment.closes + (openAfter false rest).toNat at hcount
      omega
    | _ => exact hcount

/-! ## Runs on a machine -/

namespace Machine

open Act (Tracing Traces)

/-- Events on a machine, with what its engine does. -/
def moments (engine : Engine) (es : List Event) : List Moment :=
  es.map fun e => ⟨engine.connectFailure.isNone, e⟩

/-- A run left the engine as it was, its events go with the connection, and
whether there is one in the end can be told from them. -/
structure Handled (m : Machine) (es : List Event) (m' : Machine) : Prop where
  engine : m'.engine = m.engine
  lifecycle : Lifecycle m.connection.connected (moments m.engine es)
  connected :
    openAfter m.connection.connected (moments m.engine es) =
      m'.connection.connected

theorem handled_unseen {m m' : Machine} (he : m'.engine = m.engine)
    (hc : m'.connection = m.connection) :
    Handled m [] m' :=
  ⟨he, trivial, congrArg Connection.connected hc.symm⟩

theorem handled_event (m : Machine) {e : Event} (he : e.isEngine = false) :
    Handled m [e] m :=
  ⟨rfl, ⟨Event.fits_of_not_engine he _, trivial⟩,
    Moment.after_of_not_engine he _⟩

theorem handled_request {m : Machine} {e : Event}
    (he : e.isEngineRequest = true) (hm : m.connection.connected = true) :
    Handled m [e] m := by
  have hno : e.isConnect ≠ true :=
    Bool.eq_false_iff.mp (Event.isConnect_of_request he)
  exact ⟨rfl, ⟨⟨fun h => absurd h hno, fun _ => hm⟩, trivial⟩,
    Moment.after_of_request he _⟩

theorem handled_connect : Traces Handled connect := by
  intro m
  rcases run_connect m with ⟨-, hr⟩ | ⟨hc, hf, hr⟩ | ⟨hc, hf, _, hr⟩
  · rw [hr]
    exact handled_unseen rfl rfl
  · rw [hr]
    refine ⟨rfl, ⟨⟨fun _ => hc, nofun⟩, trivial⟩, ?_⟩
    show m.engine.connectFailure.isNone = true
    rw [hf]
    rfl
  · rw [hr]
    refine ⟨rfl, ⟨⟨fun _ => hc, nofun⟩, trivial⟩, ?_⟩
    show m.engine.connectFailure.isNone = m.connection.connected
    rw [hc]
    exact Option.isNone_eq_false_iff.mpr (Option.isSome_iff_ne_none.mpr hf)

theorem tracing_handled : Tracing Handled where
  nil m := ⟨rfl, trivial, rfl⟩
  append {m m' m''} es fs h h' := by
    obtain ⟨he, hl, hc⟩ := h
    obtain ⟨he', hl', hc'⟩ := h'
    rw [he, ← hc] at hl' hc'
    have ha :
        moments m.engine (es ++ fs) = moments m.engine es ++
        moments m.engine fs :=
      List.map_append
    refine ⟨he'.trans he, ?_, ?_⟩
    · rw [ha]
      exact lifecycle_append.mpr ⟨hl, hl'⟩
    · rw [ha, openAfter_append]
      exact hc'

theorem lifecycle_deeds {engine : Engine} {connected : Bool} {es : List Event}
    (h : Lifecycle connected (moments engine es)) :
    Lifecycle connected (moments engine (deeds es)) ∧
      openAfter connected (moments engine (deeds es)) =
        openAfter connected (moments engine es) := by
  induction es generalizing connected with
  | nil => exact ⟨trivial, rfl⟩
  | cons e rest ih =>
    obtain ⟨hfits, hrest⟩ := h
    obtain ⟨hl, hc⟩ := ih hrest
    cases hm : e.isMessage with
    | false =>
      rw [deeds, List.filter_cons_of_pos (by rw [hm]; rfl)]
      exact ⟨⟨hfits, hl⟩, hc⟩
    | true =>
      have ha :
          Moment.after connected ⟨engine.connectFailure.isNone, e⟩ =
            connected :=
        Moment.after_of_not_engine (Event.not_engine_of_message hm) connected
      rw [deeds, List.filter_cons_of_neg (by rw [hm]; exact Bool.false_ne_true)]
      rw [ha] at hl hc
      refine ⟨hl, hc.trans ?_⟩
      show _ = openAfter (Moment.after connected _) (moments engine rest)
      rw [ha]

theorem Handled.deeds {m m' : Machine} {es : List Event} (h : Handled m es m') :
    Handled m (deeds es) m' := by
  obtain ⟨hl, hc⟩ := lifecycle_deeds h.lifecycle
  exact ⟨h.engine, hl, hc.trans h.connected⟩

/-- Every run on a machine goes with the connection. -/
theorem traced_handled : TracedThroughout Handled where
  toTracing := tracing_handled
  request e he m := by
    have hconnect : Handled m (connect.run m).events (connect.run m).state :=
      handled_connect m
    rcases run_connect m with ⟨hc, hr⟩ | ⟨-, -, hr⟩ | ⟨-, -, _, hr⟩
    · rw [hr] at hconnect
      rw [Act.run_bind_ok hr]
      exact tracing_handled.append hconnect (handled_request he hc)
    · rw [hr] at hconnect
      rw [Act.run_bind_ok hr]
      exact tracing_handled.append hconnect (handled_request he rfl)
    · -- the engine refused, and the request was not made
      rw [hr] at hconnect
      rw [Act.run_bind_error hr]
      exact hconnect
  tree m tree := handled_unseen rfl rfl
  told m e he := handled_event m (Event.not_engine_of_message he)
  rules m rules := handled_unseen rfl rfl
  event m e he := handled_event m he

theorem handled_disconnect : Traces Handled disconnect := by
  intro m
  rw [run_disconnect]
  cases hc : m.connection.connected with
  | true => exact ⟨rfl, by rw [hc]; exact ⟨⟨nofun, fun _ => rfl⟩, trivial⟩, rfl⟩
  | false => exact ⟨rfl, trivial, hc⟩

/-! ## What is done first -/

/-- From no connection, the first thing that is done is an attempt to
connect. -/
def Connects {α : Type} (x : Act Machine α) : Prop :=
  ∀ m : Machine, m.connection.connected = false →
    ∃ rest, (x.run m).events = .connect m.connection.timeout :: rest

section Connects

variable {α β : Type}

theorem connects_connect : Connects connect := by
  intro m hm
  rcases run_connect m with ⟨hc, -⟩ | ⟨-, -, hr⟩ | ⟨-, -, _, hr⟩
  · exact nomatch hm.symm.trans hc
  · exact ⟨[], congrArg Report.events hr⟩
  · exact ⟨[], congrArg Report.events hr⟩

theorem Connects.get_bind {f : Machine → Act Machine α}
    (h : ∀ m, Connects (f m)) :
    Connects (Act.get >>= f) :=
  fun m hm => h m m hm

theorem Connects.bind {x : Act Machine α} (hx : Connects x)
    (f : α → Act Machine β) :
    Connects (x >>= f) := by
  intro m hm
  obtain ⟨rest, he⟩ := hx m hm
  rcases hr : x.run m with ⟨es, t, e | a⟩
  · rw [hr] at he
    rw [Act.run_bind_error hr]
    exact ⟨rest, he⟩
  · rw [hr] at he
    obtain rfl : es = _ := he
    rw [Act.run_bind_ok hr]
    exact ⟨_, rfl⟩

theorem Connects.handle {x : Act Machine α} (hx : Connects x)
    (f : Failure → Act Machine α) :
    Connects (Act.handle x f) := by
  have ha : Connects (Act.attempt x) := fun m hm => hx m hm
  exact ha.bind _

end Connects

theorem connects_version : Connects version :=
  .get_bind fun _ => ((connects_connect.bind _).handle _).bind _

theorem connects_ingressPort (container : String) :
    Connects (ingressPort container) :=
  .get_bind fun _ => ((connects_connect.bind _).handle _).bind _

theorem connects_extractVolume (volume : String) (dest : HostPath) :
    Connects (extractVolume volume dest) := by
  have hfind : Connects (findVolume volume) :=
    .get_bind fun _ => (connects_connect.bind _).handle _
  exact hfind.bind _

/-! ## Uses of one connection -/

/-- What a connection is used for. -/
inductive Use
  | version
  | ingressPort (container : String)
  | extractVolume (volume : String) (dest : HostPath)
  | disconnect

/-- A use, of which the answer is of no interest. -/
def Use.act : Use → Act Machine Unit
  | .version => do let _ ← Machine.version
  | .ingressPort container => do let _ ← Machine.ingressPort container
  | .extractVolume volume dest => Machine.extractVolume volume dest
  | .disconnect => Machine.disconnect

/-- Uses a connection on one machine after another, however each use ends: what
took place, and the connection that there is then. -/
def useAll : Connection → List (Machine × Use) → List Moment × Connection
  | k, [] => ([], k)
  | k, (m, u) :: rest =>
    let r := u.act.run { m with connection := k }
    let later := useAll r.state.connection rest
    (moments m.engine r.events ++ later.1, later.2)

theorem handled_use (u : Use) : Traces Handled u.act := by
  have h : TracedThroughout Handled := traced_handled
  cases u with
  | version => exact h.bind h.version fun _ => h.pure ()
  | ingressPort container =>
    exact h.bind (h.ingressPort container) fun _ => h.pure ()
  | extractVolume volume dest => exact h.extractVolume volume dest
  | disconnect => exact handled_disconnect

/-- A use of no connection makes one, and closing is done exactly if there is
one. -/
theorem events_use (u : Use) (k : Connection) (m : Machine) :
    let es := (u.act.run { m with connection := k }).events
    match u with
    | .disconnect => es = if k.connected then [.disconnect] else []
    | _ => k.connected = true ∨ ∃ rest, es = .connect k.timeout :: rest := by
  have lazy {x : Act Machine Unit} (hx : Connects x) : k.connected = true ∨
      ∃ rest, (x.run { m with connection := k }).events =
        .connect k.timeout :: rest := by
    cases hk : k.connected with
    | true => exact .inl rfl
    | false => exact .inr (hx { m with connection := k } hk)
  cases u with
  | version => exact lazy (connects_version.bind _)
  | ingressPort container =>
    exact lazy ((connects_ingressPort container).bind _)
  | extractVolume volume dest => exact lazy (connects_extractVolume volume dest)
  | disconnect => exact congrArg Report.events (run_disconnect _)

/-- Whatever the machines are, the events of all uses go with the connection. -/
theorem lifecycle_useAll (k : Connection) (uses : List (Machine × Use)) :
    Lifecycle k.connected (useAll k uses).1 ∧
      openAfter k.connected (useAll k uses).1 =
        (useAll k uses).2.connected := by
  induction uses generalizing k with
  | nil => exact ⟨trivial, rfl⟩
  | cons x rest ih =>
    obtain ⟨m, u⟩ := x
    obtain ⟨-, hl, hc⟩ := handled_use u { m with connection := k }
    obtain ⟨hl', hc'⟩ :=
      ih (u.act.run { m with connection := k }).state.connection
    rw [← hc] at hl' hc'
    refine ⟨lifecycle_append.mpr ⟨hl, hl'⟩, ?_⟩
    show openAfter k.connected (moments m.engine _ ++ _) = _
    rw [openAfter_append]
    exact hc'

end Machine

end SingleNode
