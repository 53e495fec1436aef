/-
# Requests over the connection

Whatever is asked of the container engine is asked over the connection, which is
made first if there is none.  So a request has one of two courses: the engine
cannot be reached and nothing is asked of it, or it is asked and answers
(`run_request`).  `m.reached` is the machine after either of them: all that has
changed is whether there is a connection.

What becomes of a failure is up to the request.  Each says it by one function on
failures (`versionFailure`, `portFailure`, `volumeFailure`), and its run is the
bare request with that function on its failures.
-/
import SingleNode.Proofs.Machine.Engine

namespace SingleNode

/-- The failure is an answer of the engine, or trouble with the connection to
it. -/
def Failure.IsOfEngine (e : Failure) : Prop :=
  ∃ error message, e = .engine error message

namespace Machine

variable {α : Type}

/-! ## The connection -/

/-- What becomes of a failure to connect: what the engine says of it is a
fault. -/
def refusal : Failure → Failure
  | .engine e message =>
    if e.isEngine then
      .because .runtimeUnavailable ("unable to connect to docker: " ++ message)
        (.engine e)
    else .engine e message
  | e => e

/-- How reaching the engine ends. -/
def reach (m : Machine) : Except Failure Unit :=
  if m.connection.connected then .ok ()
  else
    match m.engine.connectFailure with
    | some e => .error (refusal e)
    | none => .ok ()

/-- The machine after reaching for the engine. -/
def reached (m : Machine) : Machine :=
  { m with
    connection.connected :=
      m.connection.connected || m.engine.connectFailure.isNone }

/-- The attempt to connect, if there is no connection. -/
def connectDeeds (m : Machine) : List Event :=
  if m.connection.connected then [] else [.connect m.connection.timeout]

/-- There is a connection to the engine, or it lets one be made. -/
def Reachable (m : Machine) : Prop :=
  m.connection.connected = true ∨ m.engine.connectFailure = none

theorem reach_eq_ok_iff {m : Machine} : m.reach = .ok () ↔ m.Reachable := by
  rw [reach, Reachable]
  cases m.connection.connected with
  | true => simp
  | false => cases m.engine.connectFailure <;> simp

theorem of_reach_error {m : Machine} {e : Failure} (h : m.reach = .error e) :
    ¬m.Reachable ∧ m.connection.connected = false ∧
      ∃ f, m.engine.connectFailure = some f ∧ e = refusal f := by
  have hn : ¬m.Reachable :=
    fun hr => nomatch h.symm.trans (reach_eq_ok_iff.mpr hr)
  refine ⟨hn, ?_⟩
  rw [reach] at h
  cases hc : m.connection.connected with
  | true =>
    rw [hc] at h
    exact nomatch h
  | false =>
    cases hf : m.engine.connectFailure with
    | none =>
      rw [hc, hf] at h
      exact nomatch h
    | some f =>
      rw [hc, hf] at h
      exact ⟨rfl, f, rfl, (Except.error.inj h).symm⟩

theorem reached_of_reachable {m : Machine} (h : m.Reachable) :
    m.reached.connection.connected = true := by
  rw [reached]
  rcases h with h | h
  · exact Bool.or_eq_true _ _ ▸ .inl h
  · exact Bool.or_eq_true _ _ ▸ .inr (Option.isNone_iff_eq_none.mpr h)

theorem mem_connectDeeds {m : Machine} {x : Event} (h : x ∈ m.connectDeeds) :
    x = .connect m.connection.timeout := by
  rw [connectDeeds] at h
  split at h
  · exact absurd h List.not_mem_nil
  · exact List.mem_singleton.mp h

theorem deeds_connectDeeds (m : Machine) :
    deeds m.connectDeeds = m.connectDeeds := by
  refine List.filter_eq_self.mpr fun x hx => ?_
  rw [mem_connectDeeds hx]
  rfl

theorem run_connect_eq (m : Machine) :
    connect.run m = ⟨m.connectDeeds, m.reached, m.reach⟩ := by
  rw [reached, ← state_connect]
  simp only [connect, Act.run_bind, Act.run_get, connectDeeds, reach]
  cases m.connection.connected with
  | true => rfl
  | false =>
    cases m.engine.connectFailure with
    | none => rfl
    | some e =>
      cases e with
      | engine e message =>
        cases he : e.isEngine <;> simp [Act.run_bind, refusal, he]
      | _ => rfl

theorem run_connect_of_connected {m : Machine}
    (h : m.connection.connected = true) :
    connect.run m = ⟨[], m, .ok ()⟩ := by
  rcases run_connect m with ⟨-, hr⟩ | ⟨hc, -⟩ | ⟨hc, -⟩
  · exact hr
  · exact nomatch hc.symm.trans h
  · exact nomatch hc.symm.trans h

/-! ## One request -/

/-- What a request leaves: an attempt to connect if there is no connection, and
the request itself if the engine was reached. -/
def requestDeeds (m : Machine) (e : Event) : List Event :=
  m.connectDeeds ++ match m.reach with
    | .ok _ => [e]
    | .error _ => []

theorem mem_requestDeeds {m : Machine} {e x : Event}
    (h : x ∈ m.requestDeeds e) :
    x = .connect m.connection.timeout ∨ x = e ∧ m.Reachable := by
  rw [requestDeeds] at h
  rcases List.mem_append.mp h with h | h
  · exact .inl (mem_connectDeeds h)
  · cases hr : m.reach with
    | error f =>
      rw [hr] at h
      exact nomatch h
    | ok u =>
      rw [hr] at h
      exact .inr ⟨List.mem_singleton.mp h, reach_eq_ok_iff.mp hr⟩

theorem requestDeeds_of_reachable {m : Machine} (h : m.Reachable) (e : Event) :
    m.requestDeeds e = m.connectDeeds ++ [e] := by
  rw [requestDeeds, reach_eq_ok_iff.mpr h]

/-- A request is answered if the engine can be reached. -/
theorem run_request (e : Event) (r : Except Failure α) (m : Machine) :
    (connect >>= fun _ => Act.emit e >>= fun _ => Act.ofExcept r).run m =
      ⟨m.requestDeeds e, m.reached, m.reach >>= fun _ => r⟩ := by
  rw [Act.run_bind, run_connect_eq, requestDeeds]
  cases m.reach with
  | error f => simp only [List.append_nil]; rfl
  | ok u => rfl

/-! ## The version -/

/-- What becomes of a failure to tell the version. -/
def versionFailure (timeout : Int) : Failure → Failure
  | .engine error message =>
    if !error.isEngine && error.isTimeout then
      late FaultClass.runtimeUnavailable.stage
        ("docker did not respond within " ++ toString timeout ++ "s") error
    else
      .because .runtimeUnavailable
        ("unable to determine docker installation status: " ++ message)
          (.engine error)
  | e => e

def versionOf (info : Assoc Datum) : EngineVersion :=
  let field (name : String) : Datum := (info.get? name).getD (.text "")
  ⟨field "Version", field "Arch", field "Os"⟩

theorem run_version (m : Machine) :
    version.run m =
      ⟨m.requestDeeds .engineVersion, m.reached,
        ((m.reach >>= fun _ => m.engine.version).mapError
          (versionFailure m.connection.timeout)).map versionOf⟩ := by
  rw [version, Act.run_bind_ok (Act.run_get m)]
  dsimp only
  rw [Act.run_bind, Act.run_handle_fail _ (versionFailure m.connection.timeout),
    run_request]
  case hg =>
    intro e
    cases e with
    | engine error message => exact (apply_ite Act.fail _ _ _).symm
    | _ => rfl
  cases m.reach >>= fun _ => m.engine.version with
  | error e => rfl
  | ok info => exact congrArg (Report.mk · _ _) (List.append_nil _)

theorem of_version_eq_ok {m m' : Machine} {d : List Event} {v : EngineVersion}
    (h : version.silent.run m = ⟨d, m', .ok v⟩) :
    m.Reachable ∧ d = m.connectDeeds ++ [.engineVersion] ∧ m' = m.reached ∧
      ∃ info, m.engine.version = .ok info := by
  rw [Act.run_silent, run_version] at h
  obtain ⟨rfl, rfl, ho⟩ := Report.mk.inj h
  cases hr : m.reach with
  | error e =>
    rw [hr] at ho
    exact nomatch ho
  | ok u =>
    have hm : m.Reachable := reach_eq_ok_iff.mp hr
    cases hv : m.engine.version with
    | error e =>
      rw [hr, hv] at ho
      exact nomatch ho
    | ok info =>
      refine ⟨hm, ?_, rfl, info, rfl⟩
      dsimp only
      rw [requestDeeds_of_reachable hm, deeds_append, deeds_connectDeeds]
      rfl

theorem state_of_version {m m' : Machine} {d : List Event} {v : EngineVersion}
    (h : version.silent.run m = ⟨d, m', .ok v⟩) :
    m' = { m with connection.connected := true } := by
  obtain ⟨hm, -, rfl, -⟩ := of_version_eq_ok h
  rw [reached,
    show (m.connection.connected || m.engine.connectFailure.isNone) = true from
    reached_of_reachable hm]

/-! ## The port of a container -/

def portFailure (container : String) : Failure → Failure
  | .engine error message => unreadable container message (.engine error)
  | .fault f =>
    if f.kind = .runtimeUnavailable then
      unreadable container f.message (.fault .runtimeUnavailable)
    else .fault f
  | e => e

def portAmong (container : String) (ports : Assoc (List (Assoc Datum))) :
    Except Failure Int := do
  match ← HostPort.first
    ((ports.get? Cluster.Manifest.containerPortName).getD []) with
  | some port => return port
  | none =>
    .error (.ofFault .portIntrospection
      ("container " ++ container ++ " has no host binding for " ++
      Cluster.Manifest.containerPortName))

theorem run_ingressPort (container : String) (m : Machine) :
    (ingressPort container).run m =
      ⟨m.requestDeeds (.inspectContainer container), m.reached,
        ((m.reach >>= fun _ => portsOf m.engine container).mapError
          (portFailure container)) >>=
          portAmong container⟩ := by
  rw [ingressPort, Act.run_bind_ok (Act.run_get m)]
  dsimp only
  rw [Act.run_bind, Act.run_handle_fail _ (portFailure container), run_request]
  case hg =>
    intro e
    cases e with
    | fault f => exact (apply_ite Act.fail _ _ _).symm
    | _ => rfl
  cases m.reach >>= fun _ => portsOf m.engine container with
  | error e => rfl
  | ok ports =>
    dsimp only [Except.mapError, Bind.bind, Except.bind]
    rw [portAmong]
    cases HostPort.first
      ((ports.get? Cluster.Manifest.containerPortName).getD []) with
    | error e => exact congrArg (Report.mk · _ _) (List.append_nil _)
    | ok port? =>
      cases port? <;> exact congrArg (Report.mk · _ _) (List.append_nil _)

theorem readPort_eq (engine : Engine) (container : String) :
    readPort engine container =
      (portsOf engine container).mapError (portFailure container) >>=
        portAmong container := by
  rw [readPort]
  cases portsOf engine container with
  | error e =>
    cases e with
    | fault f => exact (apply_ite Except.error _ _ _).symm
    | _ => rfl
  | ok ports =>
    show _ = portAmong container ports
    dsimp only
    rw [portAmong]
    cases HostPort.first
      ((ports.get? Cluster.Manifest.containerPortName).getD []) with
    | error e => rfl
    | ok port? => cases port? <;> rfl

theorem run_silent_ingressPort {m : Machine} (h : m.connection.connected = true)
    (container : String) :
    (ingressPort container).silent.run m =
      ⟨[.inspectContainer container], m, readPort m.engine container⟩ := by
  have hreach : m.reach = .ok () := reach_eq_ok_iff.mpr (.inl h)
  have hreached : m.reached = m := congrArg Report.state
    ((run_connect_eq m).symm.trans (run_connect_of_connected h))
  have hdeeds :
      m.requestDeeds (.inspectContainer container) =
        [.inspectContainer container] := by
    rw [requestDeeds_of_reachable (.inl h), connectDeeds, if_pos h,
      List.nil_append]
  rw [Act.run_silent, run_ingressPort, hdeeds, hreached, hreach, readPort_eq]
  rfl

/-! ## Volumes -/

def volumeOf (engine : Engine) (volume : String) : Except Failure Unit :=
  match engine.volumeFailure with
  | some e => .error e
  | none =>
    if engine.volumes.contains volume then .ok ()
    else .error (.engine .notFound ("get " ++ volume ++ ": no such volume"))

def volumeFailure (timeout : Int) (volume : String) : Failure → Failure
  | .engine error message =>
    if error.isNotFound then
      .because .install
        ("docker volume " ++ volume ++ " not found, nothing to migrate")
        (.engine error)
    else
      installFailure ("unable to inspect docker volume " ++ volume ++ ": ")
        ("docker did not respond within " ++ toString timeout ++ "s")
          (.engine error message)
  | e => e

theorem run_findVolume (volume : String) (m : Machine) :
    (findVolume volume).run m =
      ⟨m.requestDeeds (.inspectVolume volume), m.reached,
        (m.reach >>= fun _ => volumeOf m.engine volume).mapError
          (volumeFailure m.connection.timeout volume)⟩ := by
  have answered : (failIf m.engine.volumeFailure >>= fun _ =>
      if !m.engine.volumes.contains volume then
        Act.fail (.engine .notFound ("get " ++ volume ++ ": no such volume"))
      else pure () : Act Machine Unit) =
        Act.ofExcept (volumeOf m.engine volume) := by
    rw [volumeOf]
    cases m.engine.volumeFailure with
    | some e => rfl
    | none => cases m.engine.volumes.contains volume <;> rfl
  rw [findVolume, Act.run_bind_ok (Act.run_get m),
    Act.run_handle_fail _ (volumeFailure m.connection.timeout volume),
      answered, run_request]
  case hg =>
    intro e
    cases e with
    | engine error message => exact (apply_ite Act.fail _ _ _).symm
    | _ => rfl
  exact congrArg (Report.mk · _ _) (List.nil_append _)

end Machine

end SingleNode
