/-
# Options

The options are what the installer is given: the values of a request, the port
that the cluster has, and the registry credentials after the environment has had
its say.
-/
import SingleNode.Installation.Request

namespace SingleNode.Installation

/-- The chart version that the installer is given; the newest one is the empty
text. -/
def normalizeVersion (version : String) : String :=
  if version = latestVersion then "" else version

/-- What the installer is given. -/
structure Options where
  chartVersion : String
  valuesFile : String
  secretFiles : List String
  migrate : Bool
  host : String
  port : Int
  registry : Registry
  noBrowser : Bool := false
  lowResourceMode : Bool := false
  insecureCookies : Bool := false
  deriving DecidableEq, Repr

namespace Options

/-- Where the installed platform is reached. -/
def url (o : Options) : String :=
  "http://" ++ o.host ++ ":" ++ toString o.port

/-- The options for a request, a port and credentials. -/
def ofRequest (r : Request) (port : Int) (registry : Registry) : Options where
  chartVersion := normalizeVersion r.chartVersion
  valuesFile := r.valuesFile
  secretFiles := r.secretFiles
  migrate := r.migrate
  host := r.host
  port := port
  registry := registry
  noBrowser := r.noBrowser
  lowResourceMode := r.lowResourceMode
  insecureCookies := r.insecureCookies

/-- Reports the deprecated flags and builds the options with the given
credentials. Credentials that do not hold, or are not complete, are a fault of
validation. -/
def buildWith {σ : Type} (env : Settings.Environment)
    (credentials : Settings.Arguments) (r : Request) (port : Int) :
    Act σ Options := do
  DeprecatedFlag.warn r.deprecated
  match Registry.load credentials env with
  | .ok registry => return ofRequest r port registry
  | .error invalid => Act.fail (.because .validation invalid.summary .settings)

/-- Reports the deprecated flags and builds the options with the credentials of
the request. -/
def build {σ : Type} (env : Settings.Environment) (r : Request) (port : Int) :
    Act σ Options :=
  buildWith env r.registryArguments r port

/-- The options as data, with the address and whether there is a registry
account. -/
def record (o : Options) : Datum :=
  .record [
    ("chart_version", .text o.chartVersion),
    ("values_file", .text o.valuesFile),
    ("secret_files", .list (o.secretFiles.map .text)),
    ("migrate", .bool o.migrate),
    ("host", .text o.host),
    ("port", .integer o.port),
    ("no_browser", .bool o.noBrowser),
    ("low_resource_mode", .bool o.lowResourceMode),
    ("insecure_cookies", .bool o.insecureCookies),
    ("url", .text o.url),
    ("registry", .record [
      ("server", .text o.registry.server),
      ("username", .text o.registry.username),
      ("password", .text o.registry.password),
      ("email", .text o.registry.email),
      ("configured", .bool o.registry.configured)])]

end Options

end SingleNode.Installation
