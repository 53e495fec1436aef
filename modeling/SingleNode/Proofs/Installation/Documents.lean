/-
# The documents of an installation read back

Two documents leave an installation: the manifest from which the cluster is
created, and the one that routes the host to the platform.  Both carry texts
from outside, which may be anything.  A reader finds in both what was meant, and
no text changes the structure around it.
-/
import SingleNode.Proofs.Chart.Ingress
import SingleNode.Proofs.Cluster.Manifest

namespace SingleNode.Installation

open Yaml Yaml.Reader

/-- The manifest has one control-plane node, with the port, with the data
directory and then the mounts in their order, and with a text that reads as the
document that labels the node. The ingress manifest reads as itself. -/
theorem documents_read_back (port : Int) (mounts : List Mount)
    (dataDir : HostPath) (o : Options) (c : Chart.Coordinates) :
    (∃ patch : String,
      read (Cluster.Manifest.render port mounts dataDir) = some (.mapping [
        ("kind", .text "Cluster"),
        ("apiVersion", .text "kind.x-k8s.io/v1alpha4"),
        ("nodes", .sequence [.mapping [
          ("role", .text "control-plane"),
          ("kubeadmConfigPatches", .sequence [.text patch]),
          ("extraPortMappings", .sequence [.mapping [
            ("containerPort", .integer 80),
            ("hostPort", .integer port),
            ("protocol", .text "TCP")]]),
          ("extraMounts", .sequence (
            (Mount.mk dataDir.toString "/var/local-path-provisioner" ::
              mounts).map fun m =>
              .mapping [
                ("hostPath", .text m.hostPath),
                ("containerPath", .text m.containerPath)]))]])]) ∧
      read patch = some (.mapping [
        ("kind", .text "InitConfiguration"),
        ("nodeRegistration", .mapping [
          ("kubeletExtraArgs",
            .mapping [("node-labels", .text "ingress-ready=true")])])])) ∧
    read (Chart.ingressText o c) = some (.mapping (Chart.ingress o c)) := by
  refine ⟨⟨Cluster.Manifest.patch, ?_, Cluster.Manifest.read_patch⟩,
    Chart.read_eq_ingress o c⟩
  exact Cluster.Manifest.read_eq_fields port mounts dataDir

end SingleNode.Installation
