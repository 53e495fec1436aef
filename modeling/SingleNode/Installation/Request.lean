/-
# Requests

A request is everything the user asked for. Flags that are deprecated are kept
in it only to be reported: they have no other effect.
-/
import SingleNode.Act
import SingleNode.Registry

namespace SingleNode.Installation

/-- A flag that is only kept so that its use can be reported. It is used if it
has a value, even an empty one. -/
structure DeprecatedFlag where
  flag : String
  envName : String
  value : Option String := none
  deriving DecidableEq, Repr

namespace DeprecatedFlag

def used (d : DeprecatedFlag) : Bool := d.value.isSome

/-- What the user is told. -/
def warning (d : DeprecatedFlag) : String :=
  "The " ++ d.flag ++ " flag (and " ++ d.envName ++
    ") is deprecated and ignored. " ++
    "Credentials are generated during installation and can be retrieved " ++
    "with 'abctl local credentials'."

/-- The warnings for the flags that were used, in order. -/
def warnings (flags : List DeprecatedFlag) : List String :=
  (flags.filter used).map warning

def warn {σ : Type} (flags : List DeprecatedFlag) : Act σ Unit :=
  Act.forEach (warnings flags) fun w =>
    Act.print ("[yellow]⚠️  " ++ w ++ "[/yellow]")

end DeprecatedFlag

/-- The chart version that stands for the newest one. -/
def latestVersion : String := "latest"

/-- What the user asked for. -/
structure Request where
  port : Int := 8000
  host : String := "localhost"
  chartVersion : String := latestVersion
  valuesFile : String := ""
  secretFiles : List String := []
  migrate : Bool := false
  volumes : List String := []
  dockerServer : String := Registry.defaultServer
  dockerUsername : String := ""
  dockerPassword : String := ""
  dockerEmail : String := ""
  noBrowser : Bool := false
  lowResourceMode : Bool := false
  insecureCookies : Bool := false
  deprecated : List DeprecatedFlag := []
  deriving DecidableEq, Repr

namespace Request

/-- The registry values of a request, as arguments. -/
def registryArguments (r : Request) : Settings.Arguments :=
  [("server", .text r.dockerServer), ("username", .text r.dockerUsername),
    ("password", .text r.dockerPassword), ("email", .text r.dockerEmail)]

end Request

end SingleNode.Installation
