/-
# The container engine

Requests to the container engine over the connection in use. The connection is
made at the first request and again after it has been closed. Errors of the
engine and of the connection become faults of the stage that made the request; a
late answer is a cancellation.
-/
import SingleNode.Cluster.Manifest
import SingleNode.Collaborators
import SingleNode.Machine.Basic
import SingleNode.Port

namespace SingleNode.Machine

/-- Makes the connection unless there is one. -/
def connect : Act Machine Unit := do
  let m ← Act.get
  if !m.connection.connected then
    Act.emit (.connect m.connection.timeout)
    match m.engine.connectFailure with
    | some (.engine e message) =>
      if e.isEngine then
        Act.fail
          (.because .runtimeUnavailable
          ("unable to connect to docker: " ++ message)
          (.engine e))
      else Act.fail (.engine e message)
    | some e => Act.fail e
    | none => Act.modify fun m => { m with connection.connected := true }

/-- Closes the connection if there is one. -/
def disconnect : Act Machine Unit := do
  let m ← Act.get
  if m.connection.connected then
    Act.emit .disconnect
    Act.modify fun m => { m with connection.connected := false }

/-- A cancellation at a stage, because the engine did not answer in time. -/
def late (stage detail : String) (e : EngineError) : Failure :=
  .fault { kind := .cancelled, detail, stage, cause := some (.engine e) }

/-- Asks the engine for its version. -/
def version : Act Machine EngineVersion := do
  let m ← Act.get
  let timeout := toString m.connection.timeout
  let info ←
    Act.handle
      (do connect; Act.emit .engineVersion; Act.ofExcept m.engine.version)
      fun e =>
      match e with
      | .engine error message =>
        if !error.isEngine && error.isTimeout then
          Act.fail (late FaultClass.runtimeUnavailable.stage
            ("docker did not respond within " ++ timeout ++ "s") error)
        else
          Act.fail (.because .runtimeUnavailable
            ("unable to determine docker installation status: " ++ message)
              (.engine error))
      | e => Act.fail e
  let field (name : String) : Datum := (info.get? name).getD (.text "")
  return ⟨field "Version", field "Arch", field "Os"⟩

def portsOf (engine : Engine) (container : String) :
    Except Failure (Assoc (List (Assoc Datum))) :=
  (engine.containers.get? container).getD
    (.error (.engine .notFound ("No such container: " ++ container)))

/-- Reads the host port at which the ingress controller of a container is
reached. -/
def ingressPort (container : String) : Act Machine Int := do
  let m ← Act.get
  let unreadable (text : String) (cause : Cause) : Failure :=
    .because .portIntrospection
      ("unable to inspect container " ++ container ++ ": " ++ text) cause
  let ports ←
    Act.handle
      (do connect; Act.emit (.inspectContainer container)
          Act.ofExcept (portsOf m.engine container)) fun e =>
      match e with
      | .engine error message => Act.fail (unreadable message (.engine error))
      | .fault f =>
        if f.kind = .runtimeUnavailable then
          Act.fail (unreadable f.message (.fault .runtimeUnavailable))
        else Act.fail e
      | e => Act.fail e
  let portName := Cluster.Manifest.containerPortName
  match ← Act.ofExcept (HostPort.first ((ports.get? portName).getD [])) with
  | some port => return port
  | none =>
    Act.fail (.ofFault .portIntrospection
      ("container " ++ container ++ " has no host binding for " ++ portName))

/-- Turns an error of the engine or of the connection into a fault of
installation. -/
def installFailure (text lateText : String) : Failure → Failure
  | .engine error message =>
    if !error.isEngine && error.isTimeout then late FaultClass.install.stage
      lateText error
    else .because .install (text ++ message) (.engine error)
  | e => e

def findVolume (volume : String) : Act Machine Unit := do
  let m ← Act.get
  Act.handle
    (do connect; Act.emit (.inspectVolume volume); failIf m.engine.volumeFailure
        if !m.engine.volumes.contains volume then
          Act.fail (.engine .notFound ("get " ++ volume ++ ": no such volume")))
            fun e =>
    match e with
    | .engine error message =>
      if error.isNotFound then
        Act.fail (.because .install
          ("docker volume " ++ volume ++ " not found, nothing to migrate")
            (.engine error))
      else
        Act.fail
          (installFailure ("unable to inspect docker volume " ++ volume ++ ": ")
          ("docker did not respond within " ++
            toString m.connection.timeout ++ "s")
          (.engine error message))
    | e => Act.fail e

/-- What the copying container sees: the volume to read from and the directory
to write to. -/
def copyBinds (volume : String) (dest : HostPath) : Assoc Bind :=
  Assoc.ofList [(volume, ⟨"/src", "ro"⟩), (dest.toString, ⟨"/dest", "rw"⟩)]

/-- Copies the files of a volume into a directory, which is made if it is not
there. -/
def extractVolume (volume : String) (dest : HostPath) : Act Machine Unit := do
  findVolume volume
  ensureDirectories dest
  Act.info ("copying volume " ++ volume ++ " to " ++ dest.toString)
  let m ← Act.get
  Act.handle
    (do connect
        Act.emit
          (.runContainer "busybox:latest" ["sh", "-c", "cp -a /src/. /dest/"]
          (copyBinds volume dest))
        failIf m.engine.runFailure) fun e =>
    Act.fail
      (installFailure ("unable to migrate docker volume " ++ volume ++ ": ")
      ("docker volume " ++ volume ++ " copy did not finish within " ++
        toString m.connection.timeout ++
        "s") e)

end SingleNode.Machine
