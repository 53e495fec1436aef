/-
# The cluster manifest

The document from which a cluster is created: one control-plane node that is
labelled as ready for ingress, maps a host port to the port of the ingress
controller, and mounts the data directory and the volumes that the user asked
for, in this order.
-/
import SingleNode.HostPath
import SingleNode.Mount
import SingleNode.Yaml.Node

namespace SingleNode.Cluster.Manifest

open Yaml

/-- The port of the ingress controller inside the node. -/
def containerPort : Nat := 80

/-- The port of the ingress controller, as the container engine names it. -/
def containerPortName : String := "80/tcp"

/-- Where the node keeps data. -/
def nodeDataPath : String := "/var/local-path-provisioner"

/-- The document that labels the node. -/
def patch : String :=
  Node.document [
    ("kind", .text "InitConfiguration"),
    ("nodeRegistration", .mapping [
      ("kubeletExtraArgs",
        .mapping [("node-labels", .text "ingress-ready=true")])])]

def mountNode (host container : String) : Node :=
  .mapping [("hostPath", .text host), ("containerPath", .text container)]

def fields (port : Int) (mounts : List Mount) (dataDir : HostPath) :
    List (String × Node) :=
  let node : Node := .mapping [
    ("role", .text "control-plane"),
    ("kubeadmConfigPatches", .sequence [.text patch]),
    ("extraPortMappings", .sequence [
      .mapping [
        ("containerPort", .integer containerPort),
        ("hostPort", .integer port),
        ("protocol", .text "TCP")]]),
    ("extraMounts", .sequence
      (mountNode dataDir.toString nodeDataPath ::
        mounts.map fun m => mountNode m.hostPath m.containerPath))]
  [("kind", .text "Cluster"), ("apiVersion", .text "kind.x-k8s.io/v1alpha4"),
    ("nodes", .sequence [node])]

def render (port : Int) (mounts : List Mount) (dataDir : HostPath) : String :=
  Node.document (fields port mounts dataDir)

end SingleNode.Cluster.Manifest
