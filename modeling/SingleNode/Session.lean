/-
# Sessions

A session is a sequence of steps on one machine. Steps change what the machine
answers, use its parts one by one, or run whole installations. A step that fails
does not end the session.

A new session has no clock and no connection. A setup sets the clock, and a step
of its own opens the connection; what needs either before that fails.
-/
import SingleNode.CommandLine.Install
import SingleNode.Installation

namespace SingleNode

/-- The environment, the reader of numbers on command lines, the machine as it
is observed, all readings of its clock, and the connection that was opened by a
step. -/
structure Session where
  environment : Settings.Environment
  number? : String → Option Int
  observed : Observed Machine
  readings : Option (List Reading) := none
  opened : Option Connection := none

namespace Session

def begin (environment : Settings.Environment) (number? : String → Option Int) :
    Session where
  environment := environment
  number? := number?
  observed :=
    { telemetry := {}
      clock := []
      world := { tree := .empty ["tmp", "work"] } }

/-- What a step replaces on the machine. -/
structure Setup where
  bindings : Option (List (String × String)) := none
  rules : Option (List Rule) := none
  missing : Option (List String) := none
  engine : Option Engine := none
  busyPorts : Option (List Int) := none
  readings : Option (List Reading) := none

/-- The steps. Settings are given as arguments. -/
inductive Step
  | setup (s : Setup)
  | files (directories files : List String)
  | command (kind : FaultClass) (c : Machine.Command)
  | tryPort (port : Int)
  | openConnection (timeout : Int)
  | closeConnection
  | version
  | ingressPort (container : String)
  | choosePort (container : String) (port : Int)
  | extractVolume (volume dest : String)
  | lookup (cluster : Settings.Arguments)
  | create (cluster : Settings.Arguments) (port : Int) (mounts : List Mount)
  | chartInstall (cluster chart registry : Settings.Arguments)
    (options : Registry → Installation.Options)
  | install (cluster chart : Option Settings.Arguments)
      (request : Installation.Request)
  | commandLine (words : List String) (readOnly : Bool)

/-- What a step returns. -/
inductive Answer
  | none
  | text (s : String)
  | version (v : EngineVersion)
  | port (n : Int)
  | resolution (r : PortChoice)
  | handle (h : Cluster.Handle)
  | options (o : Installation.Options)
  | exit (code : Nat)
  | request (code : Nat) (r : Option Installation.Request)

def onMachine {α : Type} (x : Act Machine α) : Act Session α := fun s =>
  let r := x.within s.observed
  ⟨r.events, { s with observed := r.state }, r.outcome⟩

/-- An action on the machine that uses the given connection. -/
def withConnection {α : Type} (connection : Connection) (x : Act Machine α) :
    Act Machine α := do
  Act.modify fun m => { m with connection := connection }
  x

/-- An action on the machine that uses a connection which was opened. Afterwards
the connection is kept as the action left it. -/
def through {α : Type} (connection : Connection) (x : Act Machine α) :
    Act Session α := do
  let r ← Act.attempt (onMachine (withConnection connection x))
  Act.modify fun s => { s with opened := some s.observed.world.connection }
  Act.ofExcept r

/-- What is raised when nothing has the named member. -/
def memberless (holder member : String) : Failure :=
  .plain .attribute
    (some ("'" ++ holder ++ "' object has no attribute '" ++ member ++ "'"))

/-- An action on the machine by a member of the connection that was opened. -/
def onConnection {α : Type} (member : String) (x : Act Machine α) :
    Act Session α := do
  let s ← Act.get
  match s.opened with
  | some connection => through connection x
  | none => Act.fail (memberless "NoneType" member)

/-- An action on the machine of a session as it is observed. -/
def onObserved {α : Type} (x : Act (Observed Machine) α) : Act Session α :=
  fun s =>
  let r := x s.observed
  ⟨r.events, { s with observed := r.state }, r.outcome⟩

/-- An installation without a clock. It comes as far as the record of its
start. -/
def runUntimed (clusterArgs chartArgs : Option Settings.Arguments)
    (env : Settings.Environment) :
    Act (Observed Machine) Installation.Options := do
  let (cluster, _) ← Installation.loaded
    (Installation.settings clusterArgs chartArgs env)
  Act.modify (Installation.begin cluster.commandTimeout)
  Telemetry.record Pipeline.operation .start []
  Act.fail (memberless "World" "clock")

def install (clusterArgs chartArgs : Option Settings.Arguments)
    (request : Installation.Request) :
    Act Session Installation.Options := do
  let s ← Act.get
  match s.readings with
  | some _ =>
    onObserved (Installation.run clusterArgs chartArgs s.environment request)
  | none => onObserved (runUntimed clusterArgs chartArgs s.environment)

/-- Replaces what a setup names. The clock goes back to its first reading in any
case. -/
def applySetup (u : Setup) (s : Session) : Session :=
  let m := s.observed.world
  let readings := u.readings.getD (s.readings.getD [])
  { s with
    environment :=
      { s.environment with bindings := u.bindings.getD s.environment.bindings }
    readings := some readings
    observed := {
      s.observed with
      clock := readings
      world := {
        m with
        rules := u.rules.getD m.rules
        missing := u.missing.getD m.missing
        engine := u.engine.getD m.engine
        busyPorts := u.busyPorts.getD m.busyPorts } } }

/-- Makes directories and then files, up to the first that cannot be made. -/
def makeFiles (directories files : List String) : Act Machine Unit := do
  Act.forEach directories fun d =>
    Machine.ensureDirectories (HostPath.ofString d)
  Act.forEach files fun f => Machine.ensureFile (HostPath.ofString f)

/-- Keeps the events that show at a level of log records. -/
def showing {σ α : Type} (least : LogLevel) (x : Act σ α) : Act σ α := fun s =>
  let r := x s
  { r with events := r.events.filter (·.showsAt least) }

/-- What the user reads about a failure. -/
def complaint (e : Failure) : String := "[red]❌ " ++ e.message ++ "[/red]"

/-- Runs an installation as the program does, and returns the exit status: 0 if
it returned, 130 if it was interrupted, else 1 after printing the failure. -/
def runProgram (verbose : Bool) (request : Installation.Request) :
    Act Session Nat := do
  let least := if verbose then LogLevel.debug else LogLevel.info
  match ← Act.attempt (showing least (install none none request)) with
  | .ok _ => return 0
  | .error e =>
    if e.isInterrupt then return 130
    Act.print (complaint e)
    return 1

/-- Runs a command line. If it is only to be read, the request is the answer.
Completion has the status 1, since a machine has no shell that could be
completed. -/
def runCommandLine (words : List String) (readOnly : Bool) :
    Act Session Answer := do
  let answer (code : Nat) (r : Option Installation.Request) : Answer :=
    if readOnly then .request code r else .exit code
  let s ← Act.get
  match CommandLine.readWish s.number? words with
  | .error e =>
    Act.emit (.usageError e)
    return answer 2 none
  | .ok .help => return answer 0 none
  | .ok .completion => return answer 1 none
  | .ok (.install verbose request) =>
    if readOnly then return answer 0 (some request)
    else return answer (← runProgram verbose request) none

def perform : Step → Act Session Answer
  | .setup u => do
    Act.modify (applySetup u)
    return .none
  | .files directories files => do
    onMachine (makeFiles directories files)
    return .none
  | .command kind c => return .text (← onMachine (Machine.command kind c))
  | .tryPort port => do
    onMachine (Machine.tryPort port)
    return .none
  | .openConnection timeout => do
    Act.modify fun s => { s with opened := some { timeout } }
    return .none
  | .closeConnection => do
    onConnection "__exit__" Machine.disconnect
    return .none
  | .version => return .version (← onConnection "version" Machine.version)
  | .ingressPort container =>
    return .port (← onConnection "exposed_port" (Machine.ingressPort container))
  | .choosePort container port =>
    return .resolution
      (← onConnection "exposed_port"
        (PortChoice.choose Machine.ingressPort container port))
  | .extractVolume volume dest => do
    onConnection "copy_volume"
      (Machine.extractVolume volume (HostPath.ofString dest))
    return .none
  | .lookup cluster => do
    let s ← Act.get
    let cfg ← Installation.loaded (Cluster.Config.load cluster s.environment)
    return .handle (← onMachine (Cluster.lookup cfg cfg.provider))
  | .create cluster port mounts => do
    let s ← Act.get
    let cfg ← Installation.loaded (Cluster.Config.load cluster s.environment)
    onMachine (Cluster.create cfg cfg.provider port mounts)
    return .none
  | .chartInstall cluster chart registry options => do
    let s ← Act.get
    let cfg ← Installation.loaded (Cluster.Config.load cluster s.environment)
    let coordinates ← Installation.loaded
      (Chart.Coordinates.load chart s.environment)
    let credentials ← Installation.loaded (Registry.load registry s.environment)
    let target : Chart.Target := ⟨cfg.provider, cfg, coordinates⟩
    let work := target.install (options credentials)
    match s.opened with
    | some connection => through connection work
    | none => onMachine (withConnection { timeout := cfg.commandTimeout } work)
    return .none
  | .install cluster chart request =>
    return .options (← install cluster chart request)
  | .commandLine words readOnly => runCommandLine words readOnly

end Session

end SingleNode
