/-
# The merged credentials of a request

For each field of the credentials a variable that is set and not empty wins over
the value of the request.  What comes out of this is `Registry.merged`, and
loading the credentials of a request gives exactly that if the group of user
name, password and email holds (`load_registryArguments`).  Nothing else can go
wrong: the values of a request and of variables are texts.
-/
import SingleNode.Installation.Options
import SingleNode.Proofs.Act.Deeds

namespace SingleNode.Registry

open Settings Installation

/-- The value of a field: that of its variable if this is set and not empty,
else the given one. -/
def overridden (env : Environment) (field given : String) : String :=
  (env.filled.get? (variableName lead field)).getD given

/-- The credentials of a request after the environment has had its say. -/
def merged (env : Environment) (r : Request) : Registry where
  server := overridden env "server" r.dockerServer
  username := overridden env "username" r.dockerUsername
  password := overridden env "password" r.dockerPassword
  email := overridden env "email" r.dockerEmail

/-- What is reported about credentials of which only a part is given. -/
def incomplete (env : Environment) (r : Request) : Invalid where
  group := "RegistryCredentials"
  complaints := [{
    field := none
    reason := .incomplete (merged env r).missing
    input := givenRecord r.registryArguments env }]

theorem isComplete_iff (r : Registry) :
    r.isComplete = true ↔
      (r.username = "" ↔ r.password = "") ∧
      (r.password = "" ↔ r.email = "") := by
  simp only [isComplete, missing, group]
  by_cases hu : r.username = "" <;> by_cases hp : r.password = "" <;>
    by_cases he : r.email = "" <;>
    simp [hu, hp, he]

section Request

variable (env : Environment) (r : Request)

theorem find?_registryArguments :
    r.registryArguments.find? "server" = some (.text r.dockerServer) ∧
      r.registryArguments.find? "username" = some (.text r.dockerUsername) ∧
      r.registryArguments.find? "password" = some (.text r.dockerPassword) ∧
      r.registryArguments.find? "email" = some (.text r.dockerEmail) := by
  have ne : ∀ a b : String, foldName a ≠ foldName b →
      decide (foldName a = foldName b) = false :=
    fun a b h => decide_eq_false h
  have hu : foldName "server" ≠ foldName "username" := by decide +kernel
  have hp : foldName "server" ≠ foldName "password" := by decide +kernel
  have he : foldName "server" ≠ foldName "email" := by decide +kernel
  have hup : foldName "username" ≠ foldName "password" := by decide +kernel
  have hue : foldName "username" ≠ foldName "email" := by decide +kernel
  have hpe : foldName "password" ≠ foldName "email" := by decide +kernel
  simp [Arguments.find?, Request.registryArguments, ne _ _ hu, ne _ _ hp,
    ne _ _ he, ne _ _ hup, ne _ _ hue, ne _ _ hpe]

theorem given?_eq {args : Arguments} {field value : String}
    (h : args.find? field = some (.text value)) :
    given? args env field = some (.text (overridden env field value)) := by
  simp only [given?, override?, overridden, h]
  cases env.filled.get? (variableName lead field) <;> rfl

theorem check_registryArguments :
    check r.registryArguments env = .valid (merged env r) := by
  obtain ⟨hs, hu, hp, he⟩ := find?_registryArguments r
  simp only [check, given?_eq env hs, given?_eq env hu, given?_eq env hp,
    given?_eq env he]
  rfl

/-- The credentials of a request load exactly if their group holds, and then
they are merged. -/
theorem load_registryArguments :
    load r.registryArguments env =
      if (merged env r).isComplete then .ok (merged env r)
        else .error (incomplete env r) := by
  simp only [load, check_registryArguments, Checked.report]
  rfl

end Request

end SingleNode.Registry

namespace SingleNode.Installation.Options

open Settings

/-- The fault of a request whose credentials are not complete. -/
def incompleteFault (env : Environment) (r : Request) : Fault where
  kind := .validation
  detail := (Registry.incomplete env r).summary
  cause := some .settings

/-- The options for a request and a port, or what is said about its
credentials. -/
def checked (env : Environment) (r : Request) (port : Int) :
    Except Failure Options :=
  if (Registry.merged env r).isComplete then .ok (ofRequest r port
    (Registry.merged env r))
  else .error (.fault (incompleteFault env r))

theorem build_eq {σ : Type} (env : Environment) (r : Request) (port : Int) :
    (build env r port : Act σ Options) =
      DeprecatedFlag.warn r.deprecated >>= fun _ =>
        Act.ofExcept (checked env r port) := by
  rw [build, buildWith, Registry.load_registryArguments, checked]
  cases (Registry.merged env r).isComplete <;> rfl

/-- Building options reports deprecated flags only, and gives the merged
credentials and the port to the installer unless the group of the credentials
does not hold. -/
theorem silent_build {σ : Type} (env : Environment) (r : Request) (port : Int) :
    (build env r port : Act σ Options).silent =
      if (Registry.merged env r).isComplete then
        pure (ofRequest r port (Registry.merged env r))
      else Act.fail (.fault (incompleteFault env r)) := by
  have warn :
      (DeprecatedFlag.warn r.deprecated : Act σ Unit).silent = pure () := by
    simp only [DeprecatedFlag.warn, Act.silent_forEach, Act.silent_print]
    induction DeprecatedFlag.warnings r.deprecated with
    | nil => rfl
    | cons w rest ih => simp [Act.forEach, ih]
  simp only [build, buildWith, Act.silent_bind, warn, pure_bind,
    Registry.load_registryArguments]
  cases (Registry.merged env r).isComplete <;> rfl

end SingleNode.Installation.Options
