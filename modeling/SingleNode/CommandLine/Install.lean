/-
# The command line

`local install` is the only command. What stands before `local` are options of
the program, what stands between the two words are options of the group, and
what follows belongs to the command. A wish for help counts as soon as the
options of its level can be read, and so does one for the completion of words in
the user's shell; the first of them counts. A value that is not a port is
refused before stray words are.

Which texts are numbers is up to whoever reads command lines, so the reader of
numbers is a parameter.
-/
import SingleNode.CommandLine.Grammar
import SingleNode.Installation.Options

namespace SingleNode.CommandLine

/-- Options of the program and of its group of commands. -/
inductive GroupOption
  | help
  | verbose
  | completion
  deriving DecidableEq, Repr

/-- Options of the command. -/
inductive InstallOption
  | help
  | port
  | host
  | chartVersion
  | values
  | secret
  | volume
  | migrate
  | dockerServer
  | dockerUsername
  | dockerPassword
  | dockerEmail
  | noBrowser
  | lowResourceMode
  | insecureCookies
  | username
  | password
  deriving DecidableEq, Repr

def programOptions : List (OptionSpec GroupOption) :=
  [⟨.help, ["--help"], false⟩, ⟨.verbose, ["--verbose", "-v"], false⟩,
    ⟨.completion, ["--install-completion", "--show-completion"], false⟩]

def groupOptions : List (OptionSpec GroupOption) :=
  [⟨.help, ["--help"], false⟩]

def installOptions : List (OptionSpec InstallOption) :=
  [⟨.help, ["--help"], false⟩,
    ⟨.port, ["--port"], true⟩,
    ⟨.host, ["--host"], true⟩,
    ⟨.chartVersion, ["--chart-version"], true⟩,
    ⟨.values, ["--values"], true⟩,
    ⟨.secret, ["--secret"], true⟩,
    ⟨.volume, ["--volume"], true⟩,
    ⟨.migrate, ["--migrate"], false⟩,
    ⟨.dockerServer, ["--docker-server"], true⟩,
    ⟨.dockerUsername, ["--docker-username"], true⟩,
    ⟨.dockerPassword, ["--docker-password"], true⟩,
    ⟨.dockerEmail, ["--docker-email"], true⟩,
    ⟨.noBrowser, ["--no-browser"], false⟩,
    ⟨.lowResourceMode, ["--low-resource-mode"], false⟩,
    ⟨.insecureCookies, ["--insecure-cookies"], false⟩,
    ⟨.username, ["--username", "-u"], true⟩,
    ⟨.password, ["--password", "-p"], true⟩]

/-- What a command line asks for. -/
inductive Wish
  | help
  | completion
  | install (verbose : Bool) (request : Installation.Request)
  deriving DecidableEq, Repr

/-- The port that was given last, or the usual one. -/
def readPort (number? : String → Option Int) (p : Parsed InstallOption) :
    Except UsageError Int :=
  match p.last? .port with
  | none => .ok ({} : Installation.Request).port
  | some text =>
    match number? text with
    | some n => .ok n
    | none => .error .badValue

def deprecatedFlags (p : Parsed InstallOption) :
    List Installation.DeprecatedFlag :=
  [⟨"--username", "ABCTL_LOCAL_INSTALL_USERNAME", p.last? .username⟩,
    ⟨"--password", "ABCTL_LOCAL_INSTALL_PASSWORD", p.last? .password⟩]

/-- The request that the options make for a port. -/
def request (p : Parsed InstallOption) (port : Int) : Installation.Request where
  port := port
  host := (p.last? .host).getD ({} : Installation.Request).host
  chartVersion := (p.last? .chartVersion).getD Installation.latestVersion
  valuesFile := (p.last? .values).getD ""
  secretFiles := flagItems false (p.values .secret)
  migrate := p.has .migrate
  volumes := flagItems true (p.values .volume)
  dockerServer := (p.last? .dockerServer).getD Registry.defaultServer
  dockerUsername := (p.last? .dockerUsername).getD ""
  dockerPassword := (p.last? .dockerPassword).getD ""
  dockerEmail := (p.last? .dockerEmail).getD ""
  noBrowser := p.has .noBrowser
  lowResourceMode := p.has .lowResourceMode
  insecureCookies := p.has .insecureCookies
  deprecated := deprecatedFlags p

/-- Reads the words behind the command. -/
def readInstall (number? : String → Option Int) (verbose : Bool)
    (words : List String) :
    Except UsageError Wish := do
  let p ← read installOptions true none words
  if p.has .help then return .help
  let port ← readPort number? p
  if !p.words.isEmpty then throw .misuse
  return .install verbose (request p port)

/-- What the options of a level ask for by themselves; of several the first
counts. -/
def ownWish (p : Parsed GroupOption) : Option Wish :=
  p.given.findSome? fun o =>
    match o.1 with
    | .help => some .help
    | .completion => some .completion
    | .verbose => none

/-- Reads a level of the command line whose only command has the given name. A
word in the place of the command that looks like an option is read as one before
it is refused. -/
def readGroup (options : List (OptionSpec GroupOption)) (name : String)
    (command : Parsed GroupOption → List String → Except UsageError Wish)
    (words : List String) :
    Except UsageError Wish := do
  if words.isEmpty then throw .noArguments
  let p ← read options false none words
  match ownWish p, p.words with
  | some wish, _ => return wish
  | none, [] => throw .misuse
  | none, word :: rest =>
    if word = name then command p rest
    else
      match ownWish (← read options false none (word :: rest)) with
      | some wish => return wish
      | none => throw .misuse

/-- Reads a command line, without the name of the program. -/
def readWish (number? : String → Option Int) (words : List String) :
    Except UsageError Wish :=
  readGroup programOptions "local" (fun program rest =>
    readGroup groupOptions "install" (fun _ rest =>
      readInstall number? (program.has .verbose) rest) rest) words

end SingleNode.CommandLine
