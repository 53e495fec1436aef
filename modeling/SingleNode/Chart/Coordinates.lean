/-
# Chart coordinates

Where the charts come from and under which names they are installed. The
settings come from variables that start with `ABCTL_CHART_`.
-/
import SingleNode.Settings.Field

namespace SingleNode.Chart

open Settings

/-- Repositories, charts, releases and namespaces of the platform and of its
ingress controller. -/
structure Coordinates where
  repoName : String
  repoUrl : String
  chart : String
  release : String
  namespaceName : String
  nginxRepoName : String
  nginxRepoUrl : String
  nginxChart : String
  nginxRelease : String
  nginxNamespace : String
  deriving DecidableEq, Repr

namespace Coordinates

/-- What the variables of chart settings start with. -/
def lead : String := "ABCTL_CHART_"

def default : Coordinates where
  repoName := "airbyte"
  repoUrl := "https://airbytehq.github.io/helm-charts"
  chart := "airbyte/airbyte"
  release := "airbyte-abctl"
  namespaceName := "airbyte-abctl"
  nginxRepoName := "ingress-nginx"
  nginxRepoUrl := "https://kubernetes.github.io/ingress-nginx"
  nginxChart := "ingress-nginx/ingress-nginx"
  nginxRelease := "ingress-nginx"
  nginxNamespace := "ingress-nginx"

def check (args : Arguments) (env : Environment) : Checked Coordinates :=
  let field (name fallback : String) : Checked String :=
    readText.field name fallback (given? args env lead name)
  Coordinates.mk
    <$> field "repo_name" default.repoName
    <*> field "repo_url" default.repoUrl
    <*> field "chart" default.chart
    <*> field "release" default.release
    <*> field "namespace" default.namespaceName
    <*> field "nginx_repo_name" default.nginxRepoName
    <*> field "nginx_repo_url" default.nginxRepoUrl
    <*> field "nginx_chart" default.nginxChart
    <*> field "nginx_release" default.nginxRelease
    <*> field "nginx_namespace" default.nginxNamespace

def load (args : Arguments) (env : Environment) : Except Invalid Coordinates :=
  (check args env).report "ChartConfig"

end Coordinates

end SingleNode.Chart
