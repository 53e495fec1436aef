/-
# Environments that agree but for a variable

Names of variables are matched without regard to letter case, so what is left of
an environment without a variable (`Environment.without`) has none of its
spellings.  Every other variable has the same value in environments of which the
same is left, and so have the settings that are read from other variables.
-/
import SingleNode.Chart.Coordinates
import SingleNode.Cluster.Config

namespace SingleNode

namespace Settings

namespace Environment

/-- The environment without a variable. -/
def without (env : Environment) (name : String) : Environment :=
  { env with
    bindings := env.bindings.filter fun v => foldName v.1 != foldName name }

theorem get?_without (env : Environment) {name other : String}
    (h : foldName other ≠ foldName name) :
    (env.without name).get? other = env.get? other := by
  rw [get?, get?, without, ← List.filter_reverse, List.find?_filter]
  refine congrArg _ (congrArg (List.find? · _) (funext fun v => ?_))
  by_cases hv : foldName v.1 = foldName other
  · simp [hv, h]
  · simp [hv]

theorem filled_without (env : Environment) (name : String) :
    (env.without name).filled = env.filled.without name := by
  simp only [filled, without, List.filter_filter]
  refine congrArg _ (congrArg (List.filter · _) (funext fun v => ?_))
  rw [Bool.and_comm]

variable {env env' : Environment} {name : String}
  (h : env.without name = env'.without name)
include h

theorem home_eq : env.home = env'.home := by
  show (env.without name).home = (env'.without name).home
  rw [h]

theorem get?_eq {other : String} (ho : foldName other ≠ foldName name) :
    env.get? other = env'.get? other := by
  rw [← get?_without env ho, h, get?_without env' ho]

theorem filled_eq : env.filled.without name = env'.filled.without name := by
  rw [← filled_without, h, filled_without]

theorem given?_eq (args : Arguments) {lead field : String}
    (hf : foldName (variableName lead field) ≠ foldName name) :
    given? args env lead field = given? args env' lead field := by
  rw [given?, given?, get?_eq h hf]

end Environment

end Settings

open Settings

/-- Cluster settings are read from the variables of their fields only. -/
theorem Cluster.Config.load_congr {env env' : Environment} {name : String}
    (h : env.without name = env'.without name)
    (hn : ∀ f ∈ ["cluster_name", "provider", "node_image",
      "command_timeout", "data_dir"],
      foldName (variableName lead f) ≠ foldName name) (args : Arguments) :
    load args env = load args env' := by
  simp only [List.forall_mem_cons] at hn
  obtain ⟨h1, h2, h3, h4, h5, -⟩ := hn
  simp only [load, check, Environment.home_eq h,
    Environment.given?_eq h args h1,
    Environment.given?_eq h args h2, Environment.given?_eq h args h3,
      Environment.given?_eq h args h4,
    Environment.given?_eq h args h5]

theorem Chart.Coordinates.load_congr {env env' : Environment} {name : String}
    (h : env.without name = env'.without name)
    (hn : ∀ f ∈ ["repo_name", "repo_url", "chart", "release", "namespace",
      "nginx_repo_name",
      "nginx_repo_url", "nginx_chart", "nginx_release", "nginx_namespace"],
      foldName (variableName lead f) ≠ foldName name) (args : Arguments) :
    load args env = load args env' := by
  simp only [List.forall_mem_cons] at hn
  obtain ⟨h1, h2, h3, h4, h5, h6, h7, h8, h9, h10, -⟩ := hn
  simp only [load, check, Environment.given?_eq h args h1,
    Environment.given?_eq h args h2,
    Environment.given?_eq h args h3, Environment.given?_eq h args h4,
      Environment.given?_eq h args h5,
    Environment.given?_eq h args h6, Environment.given?_eq h args h7,
      Environment.given?_eq h args h8,
    Environment.given?_eq h args h9, Environment.given?_eq h args h10]

end SingleNode
