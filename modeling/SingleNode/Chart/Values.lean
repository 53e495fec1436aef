/-
# Chart values and the ingress manifest

What the chart is told on top of its own values, and the document that routes
the host to the platform. The fields of the document are in alphabetical order.
-/
import SingleNode.Chart.Coordinates
import SingleNode.Installation.Options
import SingleNode.Yaml.Node

namespace SingleNode.Chart

open Yaml

/-- The secret that holds registry credentials. -/
def pullSecret : String := "docker-auth"

/-- The values that the chart is told, as `key=value`, in order. -/
def overrides (o : Installation.Options) : List String :=
  let rules : List (Bool × String × String) := [
    (true, "global.auth.enabled", "true"),
    (true, "global.airbyteUrl", o.url),
    (o.registry.configured, "global.imagePullSecrets[0].name", pullSecret),
    (o.lowResourceMode, "global.jobs.resources.requests.cpu", "0"),
    (o.lowResourceMode, "global.jobs.resources.requests.memory", "0"),
    (o.insecureCookies, "global.auth.cookieSecureSetting", "false")]
  (rules.filter Prod.fst).map fun r => r.2.1 ++ "=" ++ r.2.2

/-- The service that serves the platform. -/
def serviceName (c : Coordinates) : String := c.release ++ "-airbyte-webapp-svc"

/-- The document that routes the host to the platform. -/
def ingress (o : Installation.Options) (c : Coordinates) :
    List (String × Node) :=
  let backend : Node := .mapping [
    ("service", .mapping [
      ("name", .text (serviceName c)),
      ("port", .mapping [("number", .integer 80)])])]
  let path : Node := .mapping [
    ("backend", backend), ("path", .text "/"), ("pathType", .text "Prefix")]
  let rule : Node := .mapping [
    ("host", .text o.host), ("http", .mapping [("paths", .sequence [path])])]
  [("apiVersion", .text "networking.k8s.io/v1"),
    ("kind", .text "Ingress"),
    ("metadata", .mapping [
      ("name", .text c.release), ("namespace", .text c.namespaceName)]),
    ("spec", .mapping [
      ("ingressClassName", .text "nginx"), ("rules", .sequence [rule])])]

def ingressText (o : Installation.Options) (c : Coordinates) : String :=
  Node.document (ingress o c)

end SingleNode.Chart
