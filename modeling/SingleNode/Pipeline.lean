/-
# The install pipeline

One installation is one operation of telemetry: look for the container engine,
provision a cluster, build the options, install. The stages run in this order,
the first failure ends the run, and its failure is passed on unchanged.
-/
import SingleNode.Provisioning
import SingleNode.Telemetry

namespace SingleNode.Pipeline

variable {σ : Type}

def operation : String := "install"

/-- Looks for the container engine and notes its version. -/
def findEngine (c : Collaborators σ) : Act (Observed σ) Unit := do
  Act.print "[yellow]ℹ️  Checking for Docker installation[/yellow]"
  let v ← Act.onFault c.version.within
    (Act.print "[red]Unable to determine if Docker is installed[/red]")
  Telemetry.setAttribute "docker_version" v.version
  Telemetry.setAttribute "docker_arch" v.arch
  Telemetry.setAttribute "docker_platform" v.platform
  Act.print
    ("[green]✅ Found Docker installation: version " ++
    v.version.plain ++ "[/green]")

/-- Told to the user at the end. -/
def farewell : String :=
  "[green]✅ Airbyte installation complete.[/green]\n" ++
    "  A password may be required to login. The password can by found by running\n" ++
    "  the command [bright_blue]abctl local credentials[/bright_blue]"

/-- The stages of an installation. Returns the options that the installer was
given. -/
def stages (c : Collaborators σ) (provider : Cluster.Provider)
    (env : Settings.Environment) (request : Installation.Request) :
    Act (Observed σ) Installation.Options := do
  Act.emit (.stage "Starting installation")
  findEngine c
  let outcome
    ← (Provisioning.run c provider request.port request.volumes).within
  Act.ofExcept outcome.toExcept
  let options ← Installation.Options.build env request outcome.port
  Act.onFault (c.install options).within
    (Act.print "[red]Unable to install Airbyte locally[/red]")
  Act.print farewell
  return options

def run (c : Collaborators σ) (provider : Cluster.Provider)
    (env : Settings.Environment) (request : Installation.Request) :
    Act (Observed σ) Installation.Options :=
  Telemetry.during operation (stages c provider env request)

end SingleNode.Pipeline
