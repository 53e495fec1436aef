/-
# The environment and the arguments of settings

Names are matched without regard to letter case. Of several names that match,
the last variable counts and the first argument.
-/
import SingleNode.Datum

namespace SingleNode.Settings

/-- The small letter of a capital one. The Kelvin sign is a capital K. -/
def foldLetter (c : Char) : Char :=
  if c = '\u212a' then 'k' else c.toLower

/-- A name with its letter case removed. -/
def foldName (s : String) : String :=
  String.ofList (s.toList.map foldLetter)

/-- The home directory and the variables with their values, in the order in
which they were set. -/
structure Environment where
  home : String
  bindings : List (String × String)

/-- The value of a variable: of names that differ only in letter case the last
one counts. -/
def Environment.get? (env : Environment) (name : String) : Option String :=
  (env.bindings.reverse.find? fun v => foldName v.1 = foldName name).map
    Prod.snd

/-- The environment without the variables that are empty. -/
def Environment.filled (env : Environment) : Environment :=
  { env with bindings := env.bindings.filter fun v => v.2 != "" }

/-- Values given by name. -/
abbrev Arguments := Assoc Datum

/-- The argument for a field: the first whose name is that of the field but for
letter case. -/
def Arguments.find? (args : Arguments) (field : String) : Option Datum :=
  (List.find? (fun a => foldName a.1 = foldName field) args).map Prod.snd

/-- Holds if an argument is for a field of the given names. -/
def Arguments.isFor (fields : List String) (name : String) : Bool :=
  fields.any fun f => foldName f = foldName name

end SingleNode.Settings
