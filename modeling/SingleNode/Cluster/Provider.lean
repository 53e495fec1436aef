/-
# Providers of a local cluster

A provider is a backend together with the name of the cluster managed through
it. The test backend has a cluster name of its own, so that it does not touch
the cluster of a real installation.
-/

namespace SingleNode.Cluster

/-- What a cluster runs on. -/
inductive Backend
  | kind
  | test
  deriving DecidableEq, Repr

def Backend.name : Backend → String
  | .kind => "kind"
  | .test => "test"

def Backend.ofName? (s : String) : Option Backend :=
  if s = Backend.kind.name then some .kind
  else if s = Backend.test.name then some .test
  else none

/-- The cluster name of a real installation. -/
def defaultName : String := "airbyte-abctl"

/-- The cluster name that the test backend uses instead. -/
def testName : String := "test-airbyte-abctl"

/-- A backend and the cluster managed through it. -/
structure Provider where
  backend : Backend
  clusterName : String
  deriving DecidableEq, Repr

namespace Provider

/-- Whether the ingress port of the control plane can be read back. -/
def supportsIntrospection (p : Provider) : Bool := p.backend = .kind

def controlPlane (p : Provider) : String := p.clusterName ++ "-control-plane"

/-- The context under which other tools reach the cluster. -/
def context (p : Provider) : String := "kind-" ++ p.clusterName

end Provider

/-- A cluster as seen at one look. -/
structure Handle where
  name : String
  found : Bool
  provider : Provider
  deriving DecidableEq, Repr

end SingleNode.Cluster
