/-
# Installing the charts

The files that are named must be there before anything is done. Then data is
migrated if that is wanted, and the commands of the plan are run in order; the
first that fails ends the installation. Only a namespace that is there already
is no reason to stop.
-/
import SingleNode.Chart.Values
import SingleNode.Cluster.Config
import SingleNode.Machine.Command
import SingleNode.Machine.Engine

namespace SingleNode.Chart

/-- What is installed where: the cluster, its settings and the coordinates of
the charts. -/
structure Target where
  provider : Cluster.Provider
  cluster : Cluster.Config
  chart : Coordinates
  deriving DecidableEq, Repr

namespace Target

/-- A command of the chart tool, against the cluster. -/
def helm (t : Target) (args : List String) : Machine.Command where
  program := "helm"
  args := args ++ ["--kube-context", t.provider.context]
  timeout := t.cluster.commandTimeout

/-- A command of the cluster tool, against the cluster. -/
def kubectl (t : Target) (args : List String) (input : Option String := none) :
    Machine.Command where
  program := "kubectl"
  args := args ++ ["--context", t.provider.context]
  timeout := t.cluster.commandTimeout
  input := input

/-! ## The commands of the plan -/

def repoCommands (t : Target) : List Machine.Command :=
  [t.helm ["repo", "add", t.chart.repoName, t.chart.repoUrl, "--force-update"],
    t.helm ["repo", "add", t.chart.nginxRepoName, t.chart.nginxRepoUrl,
      "--force-update"],
    t.helm ["repo", "update"]]

def namespaceCommand (t : Target) : Machine.Command :=
  t.kubectl ["create", "namespace", t.chart.namespaceName]

/-- Writes out the secret with the registry credentials, without making it. -/
def secretCommand (t : Target) (r : Registry) : Machine.Command :=
  t.kubectl ["create", "secret", "docker-registry", pullSecret, "-n",
    t.chart.namespaceName,
    "--docker-server", r.server, "--docker-username", r.username,
    "--docker-password", r.password, "--docker-email", r.email,
    "--dry-run=client", "-o", "yaml"]

/-- Applies a document that is given as input. -/
def applyCommand (t : Target) (document : String) : Machine.Command :=
  t.kubectl ["apply", "-f", "-"] (some document)

def secretFileCommand (t : Target) (file : String) : Machine.Command :=
  t.kubectl ["apply", "-n", t.chart.namespaceName, "-f", file]

/-- How long a chart may take. -/
def waitArgs (t : Target) : List String :=
  ["--wait", "--timeout", toString t.cluster.commandTimeout ++ "s"]

def nginxCommand (t : Target) : Machine.Command :=
  t.helm (["upgrade", "--install", t.chart.nginxRelease, t.chart.nginxChart,
    "-n", t.chart.nginxNamespace, "--create-namespace",
    "--set", "controller.hostPort.enabled=true",
    "--set", "controller.service.type=NodePort",
    "--set-string", "controller.nodeSelector.ingress-ready=true"] ++ t.waitArgs)

def platformCommand (t : Target) (o : Installation.Options) : Machine.Command :=
  t.helm
    (["upgrade", "--install", t.chart.release, t.chart.chart, "-n",
    t.chart.namespaceName] ++
    t.waitArgs ++
    (if o.chartVersion = "" then [] else ["--version", o.chartVersion]) ++
    (if o.valuesFile = "" then [] else ["-f", o.valuesFile]) ++
    (overrides o).flatMap fun value => ["--set", value])

def ingressCommand (t : Target) (o : Installation.Options) : Machine.Command :=
  t.applyCommand (ingressText o t.chart)

/-! ## Running the plan -/

def perform (c : Machine.Command) : Act Machine String :=
  Machine.command .install c

/-- Runs a command of the plan whose output is of no interest. -/
def step (c : Machine.Command) : Act Machine Unit := do
  let _ ← perform c

/-- The files that the options name, in the order in which they are looked
for. -/
def namedFiles (o : Installation.Options) : List String :=
  (if o.valuesFile = "" then [] else [o.valuesFile]) ++ o.secretFiles

/-- Fails at the first named file that is not there. -/
def requireFiles (o : Installation.Options) : Act Machine Unit :=
  Act.forEach (namedFiles o) fun file => do
    if !(← Machine.isFile (HostPath.ofString file)) then
      Act.fail (.ofFault .install ("file " ++ file ++ " does not exist"))

def migrationVolume : String := "airbyte_db"

def migrationDir (t : Target) : HostPath :=
  t.cluster.dataDir.append ["airbyte-volume-db", "pgdata"]

/-- Migrates the data of an older installation. -/
def migrate (t : Target) : Act Machine Unit := do
  Act.emit (.stage "Migrating docker compose data")
  Machine.extractVolume migrationVolume t.migrationDir
  Act.print "[green]✅ Docker compose data migrated[/green]"

def occursIn (needle : List Char) : List Char → Bool
  | [] => needle.isEmpty
  | c :: rest => needle.isPrefixOf (c :: rest) || occursIn needle rest

/-- Holds for the failure that says that something is there already. -/
def saysAlreadyExists : Failure → Bool
  | .fault f =>
    f.kind = .install && occursIn "AlreadyExists".toList f.message.toList
  | _ => false

/-- Makes the namespace of the platform unless it is there. -/
def provideNamespace (t : Target) : Act Machine Unit :=
  Act.handle (step t.namespaceCommand) fun e =>
    if saysAlreadyExists e then Act.debug
      ("namespace " ++ t.chart.namespaceName ++ " already exists")
    else Act.fail e

/-- Stores the registry credentials in the cluster. -/
def storeCredentials (t : Target) (r : Registry) : Act Machine Unit := do
  let manifest ← perform (t.secretCommand r)
  step (t.applyCommand manifest)
  Act.print
    ("[green]  ✓ Registry credentials stored in secret '" ++
    pullSecret ++ "'[/green]")

def applySecretFile (t : Target) (file : String) : Act Machine Unit := do
  step (t.secretFileCommand file)
  Act.print ("[green]  ✓ Applied secret file " ++ file ++ "[/green]")

/-- What the user is told the chart version is. -/
def versionLabel (o : Installation.Options) : String :=
  if o.chartVersion = "" then Installation.latestVersion else o.chartVersion

/-- Installs the platform and its ingress controller. -/
def install (t : Target) (o : Installation.Options) : Act Machine Unit := do
  requireFiles o
  if o.migrate then t.migrate
  Act.emit (.stage "Installing Airbyte")
  Act.forEach t.repoCommands step
  t.provideNamespace
  if o.registry.configured then t.storeCredentials o.registry
  Act.forEach o.secretFiles t.applySecretFile
  Act.print "[yellow]ℹ️  Installing ingress-nginx...[/yellow]"
  step t.nginxCommand
  Act.print "[green]✅ ingress-nginx installed[/green]"
  Act.print ("[yellow]ℹ️  Installing Airbyte chart (" ++ versionLabel o ++
    ")...[/yellow]")
  step (t.platformCommand o)
  Act.print "[green]✅ Airbyte chart installed[/green]"
  step (t.ingressCommand o)
  Act.print ("[green]✅ Ingress configured for " ++ o.url ++ "[/green]")
  if !o.noBrowser then Machine.browse o.url

end Target

end SingleNode.Chart
