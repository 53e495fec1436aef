/-
# The connection of an installation

An installation has one connection to the container engine.  Asking for the
version makes it, nothing that comes after makes another, and it is closed at
the very end, after the last record of telemetry, if it was made (`Parted`).
That is so however the installation ends.  To say it of interruptions too, each
call of a collaborator may be cut off before it does anything or after it has
done all (`Hindrances`).
-/
import SingleNode.Proofs.Installation.Target
import SingleNode.Proofs.Machine.Lifecycle

namespace SingleNode

open Act (Tracing Traces)

/-! ## Interrupted calls -/

/-- A call is cut off before it does anything, or after it has done all. -/
inductive Interruption
  | before (e : Failure)
  | after (e : Failure)

def Act.interrupted {σ α : Type} : Option Interruption → Act σ α → Act σ α
  | none, x => x
  | some (.before e), _ => Act.fail e
  | some (.after e), x => x >>= fun _ => Act.fail e

/-- What interrupts the calls of collaborators. -/
structure Hindrances where
  version : Option Interruption := none
  lookup : Option Interruption := none
  ingressPort : Option Interruption := none
  tryPort : Option Interruption := none
  create : Option Interruption := none
  install : Option Interruption := none

def Collaborators.hindered {σ : Type} (h : Hindrances) (c : Collaborators σ) :
    Collaborators σ where
  version := c.version.interrupted h.version
  lookup p := (c.lookup p).interrupted h.lookup
  ingressPort name := (c.ingressPort name).interrupted h.ingressPort
  tryPort port := (c.tryPort port).interrupted h.tryPort
  create p port mounts := (c.create p port mounts).interrupted h.create
  install o := (c.install o).interrupted h.install

section Interrupted

variable {σ α : Type} {P : σ → List Event → σ → Prop}

theorem Act.Tracing.interrupted (hP : Tracing P) {x : Act σ α} (hx : x.Traces P)
    (i : Option Interruption) : (x.interrupted i).Traces P := by
  match i with
  | none => exact hx
  | some (.before e) => exact hP.fail e
  | some (.after e) => exact hP.bind hx fun _ => hP.fail e

theorem Collaborators.Traces.hindered {c : Collaborators σ} (h : c.Traces P)
    (hP : Tracing P) (hindrances : Hindrances) :
    (c.hindered hindrances).Traces P where
  version := hP.interrupted h.version _
  lookup p := hP.interrupted (h.lookup p) _
  ingressPort name := hP.interrupted (h.ingressPort name) _
  tryPort port := hP.interrupted (h.tryPort port) _
  create p port mounts := hP.interrupted (h.create p port mounts) _
  install o := hP.interrupted (h.install o) _

end Interrupted

/-! ## Connecting once -/

namespace Machine

/-- The run goes with the connection and does not close it. -/
structure Held (m : Machine) (es : List Event) (m' : Machine) :
    Prop extends Handled m es m' where
  kept : ∀ e ∈ es, e.isDisconnect = false

/-- Only `disconnect` closes the connection. -/
theorem traced_kept :
    Traced fun _ es _ => ∀ e ∈ es, e.isDisconnect = false := by
  refine traced_only (fun _ => rfl)
    (fun e he => Event.isDisconnect_of_request he) ?_
  intro e he
  cases e with
  | disconnect => exact nomatch he
  | _ => rfl

theorem tracing_held : Tracing Held where
  nil m := ⟨tracing_handled.nil m, nofun⟩
  append h h' := by
    have hk := List.forall_mem_append.mpr ⟨h.kept, h'.kept⟩
    exact ⟨tracing_handled.append h.toHandled h'.toHandled, hk⟩

theorem traced_held : TracedThroughout Held where
  toTracing := tracing_held
  request e he m := ⟨traced_handled.request e he m, traced_kept.request e he m⟩
  tree m tree := ⟨traced_handled.tree m tree, nofun⟩
  told m e he := ⟨traced_handled.told m e he, traced_kept.told m e he⟩
  rules m rules := ⟨traced_handled.rules m rules, nofun⟩
  event m e he := by
    refine ⟨traced_handled.event m e he, List.forall_mem_singleton.mpr ?_⟩
    cases e with
    | disconnect => exact nomatch he
    | _ => rfl

theorem held_deeds (m : Machine) (es : List Event) (m' : Machine)
    (h : Held m es m') :
    Held m (deeds es) m' :=
  ⟨h.toHandled.deeds, fun e he => h.kept e (mem_deeds.mp he).1⟩

theorem Held.stays {m m' : Machine} {es : List Event} (h : Held m es m')
    (hm : m.connection.connected = true) :
    (∀ e ∈ es, e.isConnect = false) ∧ m'.connection.connected = true := by
  obtain ⟨⟨-, hl, hc⟩, hk⟩ := h
  rw [hm] at hl hc
  rw [← hc]
  clear hc hm
  -- the first event can be neither of the two that change whether there is a
  -- connection
  induction es with
  | nil => exact ⟨nofun, rfl⟩
  | cons e rest ih =>
    obtain ⟨⟨hfits, -⟩, hrest⟩ := hl
    have he : e.isConnect = false :=
      Bool.eq_false_iff.mpr fun h => nomatch hfits h
    have ha : Moment.after true ⟨m.engine.connectFailure.isNone, e⟩ = true := by
      rw [Moment.after, he, hk e List.mem_cons_self]
      rfl
    rw [ha] at hrest
    obtain ⟨hno, ho⟩ := ih (fun x hx => hk x (List.mem_cons_of_mem _ hx)) hrest
    refine ⟨List.forall_mem_cons.mpr ⟨he, hno⟩, ?_⟩
    show openAfter (Moment.after true _) (moments m.engine rest) = true
    rw [ha]
    exact ho

/-- At most one attempt was made to connect, there is a connection if one was
made and the engine let it be, and nobody closed it. -/
structure Opened (m : Machine) (es : List Event) (m' : Machine) : Prop where
  once : es.countP Event.isConnect ≤ 1
  connected_iff : m'.connection.connected = true ↔
    es.countP Event.isConnect = 1 ∧ m.engine.connectFailure = none
  kept : ∀ e ∈ es, e.isDisconnect = false

theorem Opened.append {m m' m'' : Machine} {es fs : List Event}
    (h : Opened m es m') (hc : m'.connection.connected = true)
    (h' : Held m' fs m'') : Opened m (es ++ fs) m'' := by
  obtain ⟨hno, hc'⟩ := h'.stays hc
  have hcount :
      (es ++ fs).countP Event.isConnect = es.countP Event.isConnect := by
    rw [List.countP_append, List.countP_eq_zero.mpr fun e he =>
      Bool.eq_false_iff.mp (hno e he)]
    rfl
  refine ⟨hcount ▸ h.once, ?_, List.forall_mem_append.mpr ⟨h.kept, h'.kept⟩⟩
  rw [hcount, ← h.connected_iff, hc, hc']

theorem countP_isConnect_deeds (es : List Event) :
    (deeds es).countP Event.isConnect = es.countP Event.isConnect := by
  refine countP_deeds (fun e he => ?_) es
  cases e with
  | connect => rfl
  | _ => exact nomatch he

theorem opened_deeds {m m' : Machine} {es : List Event} :
    Opened m (deeds es) m' ↔ Opened m es m' := by
  have hcount : (deeds es).countP Event.isConnect = es.countP Event.isConnect :=
    countP_isConnect_deeds es
  have hkept : (∀ e ∈ deeds es, e.isDisconnect = false) ↔
      ∀ e ∈ es, e.isDisconnect = false := by
    constructor
    · intro h e he
      cases e with
      | disconnect => exact h _ (mem_deeds.mpr ⟨he, rfl⟩)
      | _ => rfl
    · intro h e he
      exact h e (mem_deeds.mp he).1
  constructor
  · rintro ⟨h, hc, hk⟩
    exact ⟨hcount ▸ h, hcount ▸ hc, hkept.mp hk⟩
  · rintro ⟨h, hc, hk⟩
    exact ⟨hcount.symm ▸ h, hcount.symm ▸ hc, hkept.mpr hk⟩

/-- An action that makes the connection if it returns. -/
def Opens {α : Type} (x : Act Machine α) : Prop :=
  ∀ m : Machine, m.connection.connected = false →
    Opened m (x.run m).events (x.run m).state ∧
      ∀ a, (x.run m).outcome = .ok a →
        (x.run m).state.connection.connected = true

theorem opens_connect : Opens connect := by
  intro m hm
  rcases run_connect m with ⟨hc, -⟩ | ⟨-, hf, hr⟩ | ⟨-, hf, _, hr⟩
  · exact nomatch hm.symm.trans hc
  · rw [hr]
    refine ⟨⟨Nat.le_refl 1, ?_, List.forall_mem_singleton.mpr rfl⟩,
      fun _ _ => rfl⟩
    exact ⟨fun _ => ⟨rfl, hf⟩, fun _ => rfl⟩
  · rw [hr]
    refine ⟨⟨Nat.le_refl 1, ?_, List.forall_mem_singleton.mpr rfl⟩, nofun⟩
    exact ⟨fun h => absurd h (Bool.eq_false_iff.mp hm), fun h => absurd h.2 hf⟩

section Opens

variable {α β : Type}

theorem Opens.fail (e : Failure) : Opens (Act.fail e : Act Machine α) := by
  intro m hm
  have hno : m.connection.connected ≠ true := Bool.eq_false_iff.mp hm
  exact ⟨⟨Nat.zero_le 1, ⟨fun h => absurd h hno, fun h => nomatch h.1⟩, nofun⟩,
    nofun⟩

theorem Opens.get_bind {f : Machine → Act Machine α} (h : ∀ m, Opens (f m)) :
    Opens (Act.get >>= f) :=
  fun m hm => h m m hm

theorem Opens.bind {x : Act Machine α} {f : α → Act Machine β} (hx : Opens x)
    (hf : ∀ a t, t.connection.connected = true →
      Held t ((f a).run t).events ((f a).run t).state) :
    Opens (x >>= f) := by
  intro m hm
  obtain ⟨ho, hc⟩ := hx m hm
  rcases hr : x.run m with ⟨es, t, e | a⟩
  · rw [hr] at ho
    rw [Act.run_bind_error hr]
    exact ⟨ho, nofun⟩
  · rw [hr] at ho hc
    rw [Act.run_bind_ok hr]
    have ht : t.connection.connected = true := hc a rfl
    exact ⟨ho.append ht (hf a t ht), fun _ _ => ((hf a t ht).stays ht).2⟩

theorem Opens.handle {x : Act Machine α} {f : Failure → Act Machine α}
    (hx : Opens x) (hf : ∀ e, ∃ e', f e = Act.fail e') :
    Opens (Act.handle x f) := by
  intro m hm
  obtain ⟨ho, hc⟩ := hx m hm
  rw [Act.run_handle]
  rcases hr : x.run m with ⟨es, t, e | a⟩
  · rw [hr] at ho
    obtain ⟨e', he'⟩ := hf e
    dsimp only
    rw [he', Act.run_fail, List.append_nil]
    exact ⟨ho, nofun⟩
  · rw [hr] at ho hc
    exact ⟨ho, hc⟩

theorem Opens.interrupted {x : Act Machine α} (hx : Opens x)
    (i : Option Interruption) :
    Opens (x.interrupted i) := by
  match i with
  | none => exact hx
  | some (.before e) => exact .fail e
  | some (.after e) => exact hx.bind fun _ t _ => tracing_held.fail e t

theorem Connects.interrupted {x : Act Machine α} (hx : Connects x)
    {i : Option Interruption} (hi : ∀ e, i ≠ some (.before e)) :
    Connects (x.interrupted i) := by
  match i with
  | none => exact hx
  | some (.before e) => exact absurd rfl (hi e)
  | some (.after e) => exact hx.bind _

end Opens

theorem opens_version : Opens version := by
  refine Opens.get_bind fun m =>
    Opens.bind (Opens.handle ?_ fun e => ?_) fun _ t _ => ?_
  · refine opens_connect.bind fun _ t ht => ?_
    have hasked : Held t [.engineVersion] t :=
      ⟨Machine.handled_request rfl ht, List.forall_mem_singleton.mpr rfl⟩
    rw [Act.run_bind_ok (Act.run_emit _ _)]
    exact tracing_held.append hasked (tracing_held.ofExcept _ t)
  · cases e with
    | engine error message =>
      dsimp only
      split
      · exact ⟨_, rfl⟩
      · exact ⟨_, rfl⟩
    | _ => exact ⟨_, rfl⟩
  · exact tracing_held.pure _ t

end Machine

open Machine (Connects Held Opened Opens)

/-! ## The run of the pipeline -/

theorem Pipeline.Course.opened {c : Collaborators Machine}
    {provider : Cluster.Provider} {env : Settings.Environment}
    {request : Installation.Request} {m : Machine}
    {r : Report Machine Installation.Options} (hv : Opens c.version)
    (hc : c.Traces Held) (h : Course c provider env request m r)
    (hm : m.connection.connected = false) :
    Opened m r.events r.state := by
  obtain ⟨ho, hok⟩ := hv m hm
  have first {d : List Event} {t : Machine} {q : Except Failure EngineVersion}
      (hr : c.version.silent.run m = ⟨d, t, q⟩) : Opened m d t := by
    rw [Act.run_silent] at hr
    obtain ⟨rfl, rfl, -⟩ := Report.mk.inj hr
    exact Machine.opened_deeds.mpr ho
  rcases h.parts Machine.tracing_held Machine.held_deeds hc
    with ⟨e, hr⟩ | ⟨d, t, v, rest, hr, he, hrest⟩
  · exact first hr
  · have ht : (c.version.run m).state = t := congrArg Report.state hr
    have hv : (c.version.run m).outcome = .ok v := congrArg Report.outcome hr
    rw [he]
    exact (first hr).append (ht ▸ hok v hv) hrest

theorem Pipeline.Course.connects {c : Collaborators Machine}
    {provider : Cluster.Provider} {env : Settings.Environment}
    {request : Installation.Request} {m : Machine}
    {r : Report Machine Installation.Options} (hv : Connects c.version)
    (hc : c.Traces Held) (h : Course c provider env request m r)
    (hm : m.connection.connected = false) :
    ∃ rest, r.events = .connect m.connection.timeout :: rest := by
  obtain ⟨told, he⟩ := hv m hm
  have hd :
      (c.version.silent.run m).events = .connect m.connection.timeout ::
      deeds told := by
    rw [Act.run_silent, he]
    rfl
  rcases h.parts Machine.tracing_held Machine.held_deeds hc
    with ⟨e, hr⟩ | ⟨d, t, v, rest, hr, he, -⟩
  · rw [hr] at hd
    exact ⟨_, hd⟩
  · rw [hr] at hd
    obtain rfl : d = _ := hd
    exact ⟨_, he⟩

/-- If the time can be told, the last event of the pipeline is the record of how
it ended. -/
theorem Pipeline.events_run (c : Collaborators Machine)
    (provider : Cluster.Provider) (env : Settings.Environment)
    (request : Installation.Request) (s : Observed Machine) :
    let r := (run c provider env request).run s
    ∃ before attributes, r.events = before ++
      if Telemetry.canTime s.clock then
        [Telemetry.recordEvent operation
          (Telemetry.endPhase r.outcome) attributes]
      else [] := by
  cases ht : Telemetry.canTime s.clock with
  | false => exact ⟨_, [], (List.append_nil _).symm⟩
  | true =>
    obtain ⟨duration, hr⟩ := run_timed c provider env request ht
    rw [hr]
    exact ⟨_ :: _, _, rfl⟩

/-! ## The whole run -/

namespace Installation

def hinderedRun (hindrances : Hindrances)
    (clusterArgs chartArgs : Option Settings.Arguments)
    (env : Settings.Environment) (request : Request) :
    Act (Observed Machine) Options := do
  let t ← loaded (target clusterArgs chartArgs env)
  Act.modify (begin t.cluster.commandTimeout)
  Act.ensure
    (Pipeline.run ((collaborators t).hindered hindrances)
    t.provider env request)
    Machine.disconnect.within

/-- Without hindrances it is the installation. -/
theorem hinderedRun_none (clusterArgs chartArgs : Option Settings.Arguments)
    (env : Settings.Environment) (request : Request) :
    hinderedRun {} clusterArgs chartArgs env request =
      run clusterArgs chartArgs env request :=
  (run_eq clusterArgs chartArgs env request).symm

/-- The engine is left as an installation leaves it: one attempt to connect at
most, and the last event of all, after the record of how the installation ended,
is to close the connection, if there is one. -/
structure Parted (s : Observed Machine)
    (r : Report (Observed Machine) Options) : Prop where
  once : r.events.countP Event.isConnect ≤ 1
  parting : ∃ before attributes,
    (∀ e ∈ before, e.isDisconnect = false) ∧
    r.events = before ++
      (if Telemetry.canTime s.clock then
        [Telemetry.recordEvent Pipeline.operation (Telemetry.endPhase r.outcome)
          attributes] else []) ++
      if r.events.countP Event.isConnect = 1 ∧
        s.world.engine.connectFailure = none then [.disconnect]
      else []
  closed : r.state.world.connection.connected = false

/-- The connection is closed after everything else, and the outcome stays. -/
theorem run_closing (x : Act (Observed Machine) Options) (timeout : Int)
    (s : Observed Machine) :
    (Act.modify (begin timeout) >>= fun _ =>
      Act.ensure x Machine.disconnect.within).run s =
      let r := x.run (begin timeout s)
      ⟨r.events ++
        if r.state.world.connection.connected then [.disconnect] else [],
        { r.state with world.connection.connected := false }, r.outcome⟩ := by
  rw [Act.run_bind_ok (Act.run_modify _ _), Act.run_ensure]
  dsimp only
  rw [Act.run_within, Machine.run_disconnect]
  rfl

theorem countP_isConnect_closing (x : Act (Observed Machine) Options)
    (timeout : Int) (s : Observed Machine) :
    ((Act.modify (begin timeout) >>= fun _ =>
        Act.ensure x Machine.disconnect.within).run s).events.countP
          Event.isConnect =
      (x.run (begin timeout s)).events.countP Event.isConnect := by
  rw [run_closing]
  dsimp only
  rw [List.countP_append]
  cases (x.run (begin timeout s)).state.world.connection.connected with
  | true => rfl
  | false => rfl

theorem parted_of_opened {x : Act (Observed Machine) Options} {timeout : Int}
    {s : Observed Machine}
    (ho : Opened (begin timeout s).world (x.run (begin timeout s)).events
      (x.run (begin timeout s)).state.world)
    (he : ∃ before attributes, (x.run (begin timeout s)).events = before ++
      if Telemetry.canTime s.clock then
        [Telemetry.recordEvent Pipeline.operation
          (Telemetry.endPhase (x.run (begin timeout s)).outcome) attributes]
      else []) :
    Parted s ((Act.modify (begin timeout) >>= fun _ =>
      Act.ensure x Machine.disconnect.within).run s) := by
  obtain ⟨honce, hiff, hkept⟩ := ho
  obtain ⟨before, attributes, he⟩ := he
  -- closing is no attempt to connect, so the attempts can be counted before it
  have hcount := countP_isConnect_closing x timeout s
  rw [← hcount] at honce hiff
  rw [run_closing] at honce hiff ⊢
  generalize x.run (begin timeout s) = r at honce hiff hkept he ⊢
  refine ⟨honce, ⟨before, attributes, ?_, ?_⟩, rfl⟩
  · intro e hb
    exact hkept e (he ▸ List.mem_append_left _ hb)
  · dsimp only at hiff ⊢
    rw [← he]
    exact congrArg (r.events ++ ·) (if_congr hiff rfl rfl)

/-- However an installation is interrupted, it parts with the engine. -/
theorem parted_hinderedRun (hindrances : Hindrances)
    {clusterArgs chartArgs : Option Settings.Arguments}
    {env : Settings.Environment} (request : Request) {t : Chart.Target}
    (ht : target clusterArgs chartArgs env = .ok t) (s : Observed Machine) :
    Parted s
      ((hinderedRun hindrances clusterArgs chartArgs env request).run s) := by
  have hc : ((collaborators t).hindered hindrances).Traces Held :=
    (Machine.traced_held.collaborators t).hindered
      Machine.tracing_held hindrances
  have hv : Opens ((collaborators t).hindered hindrances).version :=
    Machine.opens_version.interrupted hindrances.version
  rw [hinderedRun, ht, loaded_ok, pure_bind]
  refine parted_of_opened ?_
    (Pipeline.events_run _ _ _ _ (begin t.cluster.commandTimeout s))
  obtain ⟨q, hcourse, -⟩ :=
    Pipeline.run_course ((collaborators t).hindered hindrances) t.provider env
    request (begin t.cluster.commandTimeout s)
  exact Machine.opened_deeds.mp (hcourse.opened hv hc rfl)

/-- An installation attempts to connect, unless the call for the version is cut
off before it does. -/
theorem attempts_hinderedRun (hindrances : Hindrances)
    {clusterArgs chartArgs : Option Settings.Arguments}
    {env : Settings.Environment} (request : Request) {t : Chart.Target}
    (ht : target clusterArgs chartArgs env = .ok t) (s : Observed Machine) :
    ((hinderedRun hindrances clusterArgs chartArgs env request).run
      s).events.countP Event.isConnect = 0 ↔
      ∃ e, hindrances.version = some (.before e) := by
  have hc : ((collaborators t).hindered hindrances).Traces Held :=
    (Machine.traced_held.collaborators t).hindered
      Machine.tracing_held hindrances
  obtain ⟨q, hcourse, -⟩ :=
    Pipeline.run_course ((collaborators t).hindered hindrances) t.provider env
    request (begin t.cluster.commandTimeout s)
  rw [hinderedRun, ht, loaded_ok, pure_bind, countP_isConnect_closing,
    ← Machine.countP_isConnect_deeds]
  rw [Act.run_silent] at hcourse
  generalize deeds _ = es at hcourse ⊢
  constructor
  · intro hzero
    by_contra hno
    have hv : Connects ((collaborators t).hindered hindrances).version :=
      Machine.connects_version.interrupted fun e he => hno ⟨e, he⟩
    obtain ⟨rest, he⟩ := hcourse.connects hv hc rfl
    obtain rfl : es = _ := he
    exact List.countP_eq_zero.mp hzero _ List.mem_cons_self rfl
  · rintro ⟨e, hb⟩
    have hv (m : Machine) :
        ((collaborators t).hindered hindrances).version.silent.run m =
          ⟨[], m, .error e⟩ := by
      rw [Collaborators.hindered, hb]
      rfl
    rcases hcourse.parts Machine.tracing_held Machine.held_deeds hc
      with ⟨_, hr⟩ | ⟨_, _, _, _, hr, -⟩
    · obtain rfl : [] = es := congrArg Report.events ((hv _).symm.trans hr)
      rfl
    · exact nomatch congrArg Report.outcome ((hv _).symm.trans hr)

/-- The life of the connection to the container engine.  However a connection is
used, and whatever the engines answer: what takes place goes with whether there
is a connection, which is known from what took place before; as many connections
were made as closed, but for the one that there is; and in the end there is one
if what took place says so.  A use of no connection makes one, and closing is
done exactly if there is one.  Every installation, however it is interrupted,
attempts to connect once, unless it is interrupted before, and closes the
connection, if it was made, as the last thing it does. -/
theorem connection_lifecycle :
    (∀ (timeout : Int) (uses : List (Machine × Machine.Use)),
      let r := Machine.useAll { timeout } uses
      (∀ before x after, r.1 = before ++ x :: after →
        x.event.Fits (openAfter false before)) ∧
      (∀ before after, r.1 = before ++ after →
        before.countP Moment.connects =
          before.countP Moment.closes + (openAfter false before).toNat) ∧
      openAfter false r.1 = r.2.connected) ∧
    (∀ (u : Machine.Use) (k : Connection) (m : Machine),
      let es := (u.act.run { m with connection := k }).events
      match u with
      | .disconnect => es = if k.connected then [.disconnect] else []
      | _ => k.connected = true ∨ ∃ rest, es = .connect k.timeout :: rest) ∧
    ∀ (hindrances : Hindrances)
      (clusterArgs chartArgs : Option Settings.Arguments)
      (env : Settings.Environment) (request : Request) (s : Observed Machine),
      hinderedRun {} clusterArgs chartArgs env request =
        run clusterArgs chartArgs env request ∧
      let r := (hinderedRun hindrances clusterArgs chartArgs env request).run s
      match target clusterArgs chartArgs env with
      | .error _ => r.events = []
      | .ok _ => Parted s r ∧
        (r.events.countP Event.isConnect = 0 ↔
          ∃ e, hindrances.version = some (.before e)) := by
  refine ⟨?_, Machine.events_use, ?_⟩
  · intro timeout uses
    obtain ⟨hl, hc⟩ := Machine.lifecycle_useAll { timeout } uses
    refine ⟨?_, ?_, hc⟩
    · intro before x after he
      rw [he] at hl
      exact hl.fits
    · intro before after he
      rw [he] at hl
      have hcount := (lifecycle_append.mp hl).1.count
      rwa [Bool.toNat_false, Nat.zero_add] at hcount
  · intro hindrances clusterArgs chartArgs env request s
    refine ⟨hinderedRun_none clusterArgs chartArgs env request, ?_⟩
    cases ht : target clusterArgs chartArgs env with
    | error invalid =>
      dsimp only
      rw [hinderedRun, ht, loaded_error, Act.fail_bind]
      rfl
    | ok t =>
      exact ⟨parted_hinderedRun hindrances request ht s,
        attempts_hinderedRun hindrances request ht s⟩

end Installation

end SingleNode
