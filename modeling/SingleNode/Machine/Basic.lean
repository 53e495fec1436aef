/-
# Machines

A machine is everything outside the workflow: the commands that can be run, the
container engine, the ports that are taken, the file tree, and the connection to
the engine that the workflow holds.
-/
import SingleNode.Act
import SingleNode.Machine.FileTree
import SingleNode.Machine.Process

namespace SingleNode

/-- A container engine. It refuses connections, or answers about its version,
the ports of its containers and its volumes, and runs containers. -/
structure Engine where
  connectFailure : Option Failure := none
  version : Except Failure (Assoc Datum) :=
    .ok [("Version", .text "27.0.3"), ("Arch", .text "arm64"),
      ("Os", .text "linux")]
  containers : Assoc (Except Failure (Assoc (List (Assoc Datum)))) := []
  volumes : List String := []
  volumeFailure : Option Failure := none
  runFailure : Option Failure := none

/-- A connection to the container engine, which is made when it is first
needed. -/
structure Connection where
  timeout : Int := 600
  connected : Bool := false
  deriving DecidableEq, Repr

/-- A machine, with the connection in use. -/
structure Machine where
  rules : List Rule := []
  missing : List String := []
  engine : Engine := {}
  busyPorts : List Int := []
  tree : FileTree
  connection : Connection := {}

namespace Machine

variable {α : Type}

/-- Fails if there is a failure. -/
def failIf (e : Option Failure) : Act Machine Unit :=
  match e with
  | some e => Act.fail e
  | none => pure ()

/-- Fails if a path holds a character that no path can have. -/
def requirePath (p : HostPath) : Act Machine Unit :=
  if p.toString.toList.contains '\x00' then Act.fail
    (.plain .value (some "embedded null byte"))
  else pure ()

/-- A directory that is made, with those above it, unless it is there. -/
def ensureDirectories (p : HostPath) : Act Machine Unit := do
  requirePath p
  let m ← Act.get
  let (tree, problem) := m.tree.ensureDirectories p
  Act.modify fun m => { m with tree := tree }
  match problem with
  | some (e, place) => Act.fail (.file e place.toString)
  | none => pure ()

/-- A file that is made, with the directories above it, unless it is there. -/
def ensureFile (p : HostPath) : Act Machine Unit := do
  ensureDirectories p.parent
  requirePath p
  let m ← Act.get
  match m.tree.addFile p with
  | .ok tree => Act.modify fun m => { m with tree := tree }
  | .error e => Act.fail (.file e p.toString)

/-- Whether a path leads to a file. -/
def isFile (p : HostPath) : Act Machine Bool := do
  if p.toString.toList.contains '\x00' then return false
  let m ← Act.get
  match m.tree.isFile p with
  | .ok b => return b
  | .error e => Act.fail (.file e p.toString)

/-- Tries to take a port of the host. A port that is taken is a fault; a number
that is not a port is a failure of its own, unless it counts as taken. -/
def tryPort (port : Int) : Act Machine Unit := do
  Act.emit (.bind "localhost" port)
  let m ← Act.get
  if m.busyPorts.contains port then
    Act.fail (.because .portUnavailable
      ("port " ++ toString port ++
        " is not available: [Errno 98] Address already in use") .portBusy)
  if port < 0 || 65535 < port then
    Act.fail (.plain .overflow (some "bind(): port must be 0-65535."))

def browse (url : String) : Act Machine Unit := Act.emit (.browser url)

end Machine

end SingleNode
