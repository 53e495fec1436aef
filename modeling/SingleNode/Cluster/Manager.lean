/-
# The cluster manager

Looks clusters up and creates them with the command `kind`. A look-up that fails
is never taken for the absence of a cluster. Creation checks the mounts, makes
the data directory, and then runs one command, once.
-/
import SingleNode.Cluster.Config
import SingleNode.Cluster.Manifest
import SingleNode.Machine.Command

namespace SingleNode.Cluster

/-- The names in a listing, one to a line; blanks around a name and empty lines
do not count. -/
def listedNames (listing : String) : List String :=
  ((Text.lines listing).map Text.trim).filter (· != "")

def sortedNames (names : List String) : List String :=
  names.eraseDups.mergeSort fun a b => decide (a ≤ b)

def lookup (cfg : Config) (provider : Provider) : Act Machine Handle := do
  let listing ← Machine.command .indeterminateState {
    program := "kind", args := ["get", "clusters"], timeout :=
      cfg.commandTimeout }
  let names := listedNames listing
  Act.debug
    ("kind clusters: " ++ (Datum.list ((sortedNames names).map .text)).literal)
  return ⟨provider.clusterName, names.contains provider.clusterName, provider⟩

def manifestName : String := "<config>"

def createCommand (cfg : Config) (provider : Provider) (port : Int)
    (mounts : List Mount) :
    Machine.Command where
  program := "kind"
  args :=
    ["create", "cluster", "--name", provider.clusterName, "--image",
    cfg.nodeImage,
    "--config", manifestName]
  timeout := cfg.commandTimeout
  config := some (Manifest.render port mounts cfg.dataDir)

def create (cfg : Config) (provider : Provider) (port : Int)
    (mounts : List Mount) :
    Act Machine Unit := do
  match mounts.find? Mount.isIncomplete with
  | some m =>
    Act.fail (.ofFault .resourceCreation
      ("volume " ++ m.spec ++ " must have both a host and a guest path"))
  | none => pure ()
  Act.handle (Machine.ensureDirectories cfg.dataDir) fun e =>
    match e with
    | .file problem path =>
      Act.fail (.because .resourceCreation
        ("unable to create data directory " ++ cfg.dataDir.toString ++ ": " ++
          (Failure.file problem path).message) (.file problem))
    | e => Act.fail e
  let _ ← Machine.command .resourceCreation
    (createCommand cfg provider port mounts)

end SingleNode.Cluster
