/-
# The cluster manifest reads back

Whatever the port and the paths of the mounts are, a reader of the manifest
finds one control-plane node, with the paths as they were given
(`read_eq_fields`).  The document that labels the node is a text in it, which
reads as a document of its own (`read_patch`).
-/
import SingleNode.Cluster.Manifest
import SingleNode.Proofs.Yaml.RoundTrip

namespace SingleNode.Cluster.Manifest

open Yaml Yaml.Reader

/-- The document that labels the node, as it reads. -/
def label : Node :=
  .mapping [
    ("kind", .text "InitConfiguration"),
    ("nodeRegistration", .mapping [
      ("kubeletExtraArgs",
        .mapping [("node-labels", .text "ingress-ready=true")])])]

theorem fits_mountNode (host container : String) :
    Fits 1 (mountNode host container) := by
  have keys : AreKeys ["hostPath", "containerPath"] := by decide
  simp [Fits, mountNode, keys]

theorem fits_fields (port : Int) (mounts : List Mount) (dataDir : HostPath) :
    Fits 5 (.mapping (fields port mounts dataDir)) := by
  have keys : ∀ names ∈ [["kind", "apiVersion", "nodes"],
      ["role", "kubeadmConfigPatches", "extraPortMappings", "extraMounts"],
      ["containerPort", "hostPort", "protocol"]], AreKeys names := by decide
  simp only [List.forall_mem_cons, List.not_mem_nil, false_imp_iff,
    implies_true, and_true] at keys
  simp [Fits, fields, keys, fits_mountNode]

theorem fits_label : Fits 3 label := by
  have keys :
      ∀ names ∈ [["kind", "nodeRegistration"], ["kubeletExtraArgs"],
      ["node-labels"]], AreKeys names := by decide
  simp only [List.forall_mem_cons, List.not_mem_nil, false_imp_iff,
    implies_true, and_true] at keys
  simp [Fits, label, keys]

theorem read_eq_fields (port : Int) (mounts : List Mount) (dataDir : HostPath) :
    read (render port mounts dataDir) =
      some (.mapping (fields port mounts dataDir)) :=
  read_document (by decide) (List.cons_ne_nil _ _)
    (fits_fields port mounts dataDir)

theorem read_patch : read patch = some label :=
  read_document (by decide) (List.cons_ne_nil _ _) fits_label

end SingleNode.Cluster.Manifest
