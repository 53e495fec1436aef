/-
# The ingress manifest reads back

Whatever the host and the names of the chart are, a reader of the document finds
the route that was meant.
-/
import SingleNode.Chart.Values
import SingleNode.Proofs.Yaml.RoundTrip

namespace SingleNode.Chart

open Yaml Yaml.Reader

theorem fits_ingress (o : Installation.Options) (c : Coordinates) :
    Fits 10 (.mapping (ingress o c)) := by
  have keys :
      ∀ names ∈ [["apiVersion", "kind", "metadata", "spec"],
      ["name", "namespace"],
      ["ingressClassName", "rules"], ["host", "http"], ["paths"],
        ["backend", "path", "pathType"],
      ["service"], ["name", "port"], ["number"]], AreKeys names := by decide
  simp only [List.forall_mem_cons, List.not_mem_nil, false_imp_iff,
    implies_true, and_true] at keys
  simp [Fits, ingress, keys]

theorem read_eq_ingress (o : Installation.Options) (c : Coordinates) :
    read (ingressText o c) = some (.mapping (ingress o c)) :=
  read_document (by decide) (List.cons_ne_nil _ _) (fits_ingress o c)

end SingleNode.Chart
