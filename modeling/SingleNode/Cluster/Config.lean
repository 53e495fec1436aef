/-
# Cluster settings

The settings of the cluster come from variables that start with `ABCTL_`.
-/
import SingleNode.Cluster.Provider
import SingleNode.Settings.Field

namespace SingleNode.Cluster

open Settings

/-- The settings of the cluster. The command timeout is the deadline, in
seconds, of every external command, and lies between 1 and 3600. -/
structure Config where
  clusterName : String
  backend : Backend
  nodeImage : String
  commandTimeout : Int
  dataDir : HostPath
  deriving DecidableEq, Repr

/-- One of the names of backends. -/
def readBackend : Reader Backend
  | .text s =>
    match Backend.ofName? s with
    | some b => .ok b
    | none => .error .notBackend
  | _ => .error .notBackend

namespace Config

/-- What the variables of cluster settings start with. -/
def lead : String := "ABCTL_"

/-- Where data is kept below a home directory. -/
def defaultDataDir (home : String) : HostPath :=
  (HostPath.ofString home).append [".airbyte", "abctl", "data"]

def default (home : String) : Config where
  clusterName := defaultName
  backend := .kind
  nodeImage := "kindest/node:v1.29.2"
  commandTimeout := 600
  dataDir := defaultDataDir home

def check (args : Arguments) (env : Environment) : Checked Config :=
  let base := default env.home
  let value := given? args env lead
  Config.mk
    <$> readText.field "cluster_name" base.clusterName (value "cluster_name")
    <*> readBackend.field "provider" base.backend (value "provider")
    <*> readText.field "node_image" base.nodeImage (value "node_image")
    <*> (readBetween 1 3600).field "command_timeout" base.commandTimeout
      (value "command_timeout")
    <*> readPath.field "data_dir" base.dataDir (value "data_dir")

def load (args : Arguments) (env : Environment) : Except Invalid Config :=
  (check args env).report "ClusterConfig"

/-- The provider that the settings ask for. The test backend keeps its own
cluster name unless the settings name another than the default. -/
def provider (cfg : Config) : Provider where
  backend := cfg.backend
  clusterName :=
    if cfg.backend = .test && cfg.clusterName =
      defaultName then testName else cfg.clusterName

end Config

end SingleNode.Cluster
