/-
# The container engine

An engine is asked over a connection, which is made if there is none
(`run_connect`).  The port of a container is the first usable host port that the
engine reports for it (`Reports`); when there is none the failure is one that
provisioning tolerates, unless the report itself is no report of ports.
Whatever is asked of an engine, no command is run and no page is opened.
-/
import SingleNode.Machine.Engine
import SingleNode.Proofs.Act.Deeds
import SingleNode.Proofs.Act.Only
import SingleNode.Proofs.Machine.Ports
import SingleNode.Proofs.Port
import SingleNode.Proofs.Provisioning.Course

namespace SingleNode

namespace Machine

/-! ## The connection -/

theorem eq_of_connected {m : Machine} {b : Bool}
    (h : m.connection.connected = b) :
    m = { m with connection.connected := b } := by
  rw [← h]

/-- Connecting does nothing if there is a connection.  Otherwise it is one
request, and there is a connection afterwards if the engine does not refuse
it. -/
theorem run_connect (m : Machine) :
    (m.connection.connected = true ∧ connect.run m = ⟨[], m, .ok ()⟩) ∨
      (m.connection.connected = false ∧ m.engine.connectFailure = none ∧
        connect.run m =
          ⟨[.connect m.connection.timeout],
            { m with connection.connected := true }, .ok ()⟩) ∨
      (m.connection.connected = false ∧ m.engine.connectFailure ≠ none ∧
        ∃ e,
          connect.run m = ⟨[.connect m.connection.timeout], m, .error e⟩) := by
  simp only [connect, Act.run_bind, Act.run_get]
  cases hc : m.connection.connected with
  | true => exact .inl ⟨rfl, rfl⟩
  | false =>
    refine .inr ?_
    cases hf : m.engine.connectFailure with
    | none => exact .inl ⟨rfl, rfl, by simp [Act.run_bind]⟩
    | some e =>
      refine .inr ⟨rfl, nofun, ?_⟩
      cases e with
      | engine e message =>
        by_cases he : e.isEngine = true <;>
          exact ⟨_, by simp [Act.run_bind, he]; rfl⟩
      | _ => exact ⟨_, by simp [Act.run_bind]; rfl⟩

theorem state_connect (m : Machine) :
    (connect.run m).state =
      { m with
        connection.connected :=
          m.connection.connected || m.engine.connectFailure.isNone } := by
  rcases run_connect m with ⟨hc, hr⟩ | ⟨hc, hf, hr⟩ | ⟨hc, hf, e, hr⟩
  · simpa [hr, hc] using eq_of_connected hc
  · simp [hr, hc, hf]
  · have hn : m.engine.connectFailure.isNone = false :=
      Option.isNone_eq_false_iff.mpr (Option.isSome_iff_ne_none.mpr hf)
    simpa [hr, hc, hn] using eq_of_connected hc

theorem run_disconnect (m : Machine) :
    disconnect.run m =
      ⟨if m.connection.connected then [.disconnect] else [],
        { m with connection.connected := false }, .ok ()⟩ := by
  simp only [disconnect, Act.run_bind, Act.run_get]
  cases hc : m.connection.connected with
  | true => simp [Act.run_bind]
  | false => simpa using eq_of_connected hc

theorem only_disconnect : disconnect.Only Event.IsRequest := by
  intro m e he
  rw [run_disconnect] at he
  split at he
  · rw [List.mem_singleton.mp he]
    exact ⟨rfl, rfl⟩
  · exact nomatch he

/-! ## The port of a container -/

/-- What is said of a container whose ports cannot be told. -/
def unreadable (container text : String) (cause : Cause) : Failure :=
  .because .portIntrospection
    ("unable to inspect container " ++ container ++ ": " ++ text) cause

/-- The port of a container as an engine tells it. -/
def readPort (engine : Engine) (container : String) : Except Failure Int :=
  match portsOf engine container with
  | .error (.engine error message) =>
    .error (unreadable container message (.engine error))
  | .error (.fault f) =>
    if f.kind = .runtimeUnavailable then
      .error (unreadable container f.message (.fault .runtimeUnavailable))
    else .error (.fault f)
  | .error e => .error e
  | .ok ports =>
    match HostPort.first
      ((ports.get? Cluster.Manifest.containerPortName).getD []) with
    | .error e => .error e
    | .ok (some port) => .ok port
    | .ok none =>
      .error (.ofFault .portIntrospection
        ("container " ++ container ++ " has no host binding for " ++
        Cluster.Manifest.containerPortName))

/-- The engine has mappings for port 80 of a container, and the port is the
first among them. -/
def HasFirst (isFirst : List (Assoc Datum) → Int → Prop) (engine : Engine)
    (container : String) (port : Int) : Prop :=
  ∃ ports mappings, portsOf engine container = .ok ports ∧
    ports.get? "80/tcp" = some mappings ∧
    isFirst mappings port

/-- The engine reports a port for a container: it is the first usable host port
for port 80. -/
def Reports : Engine → String → Int → Prop :=
  HasFirst (HostPort.IsFirst HostPort.Names HostPort.IsPassed)

/-- What is read is what is reported. -/
theorem readPort_eq_ok_iff {engine : Engine} {container : String} {port : Int} :
    readPort engine container = .ok port ↔ Reports engine container port := by
  cases hp : portsOf engine container with
  | error e =>
    have hn : ¬Reports engine container port := by
      rintro ⟨ports, mappings, h, -⟩
      exact nomatch hp.symm.trans h
    rw [readPort, hp, iff_false_right hn]
    cases e with
    | fault f => by_cases hf : f.kind = .runtimeUnavailable <;> simp [hf]
    | _ => simp
  | ok ports =>
    have hr : Reports engine container port ↔
        HostPort.first ((ports.get? "80/tcp").getD []) = .ok (some port) := by
      rw [HostPort.first_eq_some_iff, Reports, HasFirst]
      cases hm : ports.get? "80/tcp" with
      | none => simp [hp, hm, HostPort.IsFirst.not_nil]
      | some mappings => simp [hp, hm]
    rw [readPort, hp, hr, Cluster.Manifest.containerPortName]
    dsimp only
    rcases HostPort.first ((ports.get? "80/tcp").getD [])
      with e | _ | port' <;> simp

theorem Reports.unique {engine : Engine} {container : String} {p q : Int}
    (hp : Reports engine container p)
    (hq : Reports engine container q) : p = q := by
  have hp := readPort_eq_ok_iff.mpr hp
  have hq := readPort_eq_ok_iff.mpr hq
  exact Except.ok.inj (hp.symm.trans hq)

/-! ## The ports of the host -/

theorem run_silent_tryPort_eq_ok {port : Int} {m m' : Machine} {d : List Event}
    {u : Unit} (h : (tryPort port).silent.run m = ⟨d, m', .ok u⟩) :
    d = [.bind "localhost" port] ∧ m' = m := by
  rw [Act.run_silent, run_tryPort] at h
  obtain ⟨rfl, rfl, -⟩ := Report.mk.inj h
  exact ⟨rfl, rfl⟩

end Machine

end SingleNode
