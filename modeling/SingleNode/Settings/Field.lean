/-
# Fields of settings

A field takes its value from an argument, else from the environment variable
named after it, else from its default. A default is not checked. A value is
checked for the type of the field: text and paths must be text, whole numbers
may also be written as text or as a number without a fraction.
-/
import SingleNode.HostPath
import SingleNode.Settings.Checked
import SingleNode.Settings.Environment
import SingleNode.Text.Integer

namespace SingleNode.Settings

/-- The variable of a field: what its group puts in front, and the name of the
field in capitals. -/
def variableName (lead field : String) : String :=
  lead ++ String.ofList (field.toList.map Char.toUpper)

/-- The value given for a field, an argument before a variable. -/
def given? (args : Arguments) (env : Environment) (lead field : String) :
    Option Datum :=
  (args.find? field).orElse fun _ =>
    (env.get? (variableName lead field)).map Datum.text

/-- A check of a value for a field: the value, or why it does not hold. -/
abbrev Reader (α : Type) := Datum → Except Reason α

/-- Checks the given value of a field, if there is one. -/
def Reader.field {α : Type} (read : Reader α) (name : String) (default : α) :
    Option Datum → Checked α
  | none => .valid default
  | some d =>
    match read d with
    | .ok a => .valid a
    | .error reason => .invalid [{ field := some name, reason, input := d }]

/-- Text, as it is. -/
def readText : Reader String
  | .text s => .ok s
  | _ => .error .notText

/-- A path, normalised. -/
def readPath : Reader HostPath
  | .text s => .ok (HostPath.ofString s)
  | _ => .error .notPath

/-- A whole number. A number with a fraction part of zero counts if it fits in
64 bits. -/
def readWhole : Reader Int
  | .integer n => .ok n
  | .bool b => .ok (if b then 1 else 0)
  | .text s =>
    match Text.readStrictInteger s with
    | .ok n => .ok n
    | .error .malformed => .error .malformedInteger
    | .error .oversized => .error .oversizedInteger
  | .real x =>
    match x.truncate? with
    | none => .error .notFinite
    | some n =>
      if !x.isWhole then .error .fractional
      else if n.natAbs < Nat.pow 2 63 then .ok n
      else .error .oversizedInteger
  | _ => .error .notInteger

/-- A whole number between two bounds, both included. -/
def readBetween (least most : Nat) : Reader Int := fun d =>
  match readWhole d with
  | .error reason => .error reason
  | .ok n =>
    if n < least then .error (.below least)
    else if (most : Int) < n then .error (.above most)
    else .ok n

end SingleNode.Settings
