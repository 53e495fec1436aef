/-
# The program

Reads its command line and carries out what it asks for on a machine on which
every command succeeds, showing what would be printed, logged and run. Nothing
outside is touched.
-/
import SingleNode.Session

namespace SingleNode.Main

def eventLine : Event → String
  | .print text => text
  | .panel text _ => "== " ++ text ++ " =="
  | .log .debug text => "[DEBUG] " ++ text
  | .log .info text => "[INFO] " ++ text
  | .run words .. => "$ " ++ String.intercalate " " words
  | .missingCommand name => "$ " ++ name ++ " (not there)"
  | .connect _ => "engine: connect"
  | .engineVersion => "engine: version"
  | .inspectContainer name => "engine: container " ++ name
  | .inspectVolume name => "engine: volume " ++ name
  | .runContainer image .. => "engine: run " ++ image
  | .disconnect => "engine: disconnect"
  | .bind host port => "bind " ++ host ++ ":" ++ toString port
  | .browser url => "browser " ++ url
  | .usageError _ => "The command line cannot be read."
  | .call _ => "call"
  | .ended operation _ => "end of " ++ operation

/-- The variables of the environment that settings are read from. -/
def variableNames : List String :=
  let cluster :=
    ["cluster_name", "provider", "node_image", "command_timeout", "data_dir"]
  let chart :=
    ["repo_name", "repo_url", "chart", "release", "namespace",
    "nginx_repo_name",
    "nginx_repo_url", "nginx_chart", "nginx_release", "nginx_namespace"]
  cluster.map (Settings.variableName Cluster.Config.lead) ++
    chart.map (Settings.variableName Chart.Coordinates.lead) ++
    Registry.fieldVariables.map Prod.fst

/-- The session of the program. Its clock stands still, and numbers on the
command line may be written in the digits of any script. -/
def session (environment : Settings.Environment) : Session :=
  { Session.begin environment Text.readInteger? with readings := some [] }

def exitStatus : Except Failure Session.Answer → Nat
  | .ok (.exit code) => code
  | .ok (.request code _) => code
  | .ok _ => 0
  | .error _ => 1

end SingleNode.Main

open SingleNode SingleNode.Main in
/-- Runs the command line that the program was started with. -/
def main (args : List String) : IO UInt32 := do
  let home := (← IO.getEnv "HOME").getD "/"
  let mut bindings := []
  for name in variableNames do
    match ← IO.getEnv name with
    | some text => bindings := bindings ++ [(name, text)]
    | none => pure ()
  let report :=
    (Session.perform (.commandLine args false)).run (session ⟨home, bindings⟩)
  for e in report.events do
    IO.eprintln (eventLine e)
  return (exitStatus report.outcome).toUInt32
