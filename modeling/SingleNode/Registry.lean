/-
# Registry credentials

The credentials for pulling images. A variable that is set and not empty
replaces the value given for its field. User name, password and email belong
together: all three are given or none is.
-/
import SingleNode.Settings.Field

namespace SingleNode

open Settings

/-- A registry and the account there. -/
structure Registry where
  server : String
  username : String
  password : String
  email : String
  deriving DecidableEq, Repr

namespace Registry

/-- What the variables of registry settings start with. -/
def lead : String := "ABCTL_LOCAL_INSTALL_DOCKER_"

def fieldNames : List String := ["server", "username", "password", "email"]

/-- The registry used when none is given. -/
def defaultServer : String := "https://index.docker.io/v1/"

/-- For each field the variable that replaces it. -/
def fieldVariables : List (String × String) :=
  fieldNames.map fun f => (variableName lead f, f)

/-- The variable of a field. Empty variables do not count as set. -/
def override? (env : Environment) (field : String) : Option Datum :=
  (env.filled.get? (variableName lead field)).map Datum.text

/-- The value given for a field, a variable before an argument. -/
def given? (args : Arguments) (env : Environment) (field : String) :
    Option Datum :=
  (override? env field).orElse fun _ => args.find? field

/-- How a field is given: by an argument of exactly its name, by arguments whose
names differ in letter case, by a variable alone, or not at all. -/
inductive Origin
  | exactArgument
  | otherArgument
  | environment
  | nothing
  deriving DecidableEq, Repr

/-- How a field is given. -/
def origin (args : Arguments) (env : Environment) (field : String) : Origin :=
  if (args.get? field).isSome then .exactArgument
  else if (args.find? field).isSome then .otherArgument
  else if (override? env field).isSome then .environment
  else .nothing

/-- Everything that was given, as a record: the fields with arguments of another
letter case, the arguments that are for no field, the fields that only a
variable gives, and last the fields with an argument of exactly their name. -/
def givenRecord (args : Arguments) (env : Environment) : Datum :=
  let stray := List.filter (fun a => !Arguments.isFor fieldNames a.1) args
  let fields (o : Origin) : List (String × Datum) :=
    (fieldNames.filter fun f => origin args env f = o).filterMap fun f =>
      (given? args env f).map fun d => (f, d)
  .record
    (fields .otherArgument ++ stray ++ fields .environment ++
    fields .exactArgument)

/-- The fields of the group, with their values. -/
def group (r : Registry) : List (String × String) :=
  [("email", r.email), ("password", r.password), ("username", r.username)]

/-- The fields of the group that are empty, in alphabetical order. -/
def missing (r : Registry) : List String :=
  (r.group.filter fun f => f.2 = "").map Prod.fst

/-- Holds if the group is given as a whole or not at all. -/
def isComplete (r : Registry) : Bool :=
  r.missing.isEmpty || r.missing.length = r.group.length

/-- The fields, each checked by itself. -/
def check (args : Arguments) (env : Environment) : Checked Registry :=
  let field (name fallback : String) : Checked String :=
    readText.field name fallback (given? args env name)
  Registry.mk <$> field "server" defaultServer <*> field "username" "" <*> field
    "password" ""
    <*> field "email" ""

/-- Loads the credentials. The group is looked at only if every field holds by
itself. -/
def load (args : Arguments) (env : Environment) : Except Invalid Registry := do
  let r ← (check args env).report "RegistryCredentials"
  if r.isComplete then return r
  else
    throw {
      group := "RegistryCredentials"
      complaints :=
        [{ field := none
           reason := .incomplete r.missing
           input := givenRecord args env }] }

/-- Whether there is an account. -/
def configured (r : Registry) : Bool := r.username != ""

/-- The text of the credentials, without the password. -/
def text (r : Registry) : String :=
  "RegistryCredentials(server=" ++ Text.quoted r.server ++ ", username=" ++
    Text.quoted r.username ++
    ", email=" ++ Text.quoted r.email ++ ")"

end Registry

end SingleNode
