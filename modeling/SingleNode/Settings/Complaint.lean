/-
# What is wrong with settings

A complaint names the field that does not hold, why, and the value that was
given. The complaints of one load come in the order of the fields and are
reported together. A complaint about the fields taken together has no field of
its own.
-/
import SingleNode.Datum
import SingleNode.Text.Shorten

namespace SingleNode.Settings

/-- Why a value does not hold. -/
inductive Reason
  | notText
  | notBackend
  | notInteger
  | malformedInteger
  | oversizedInteger
  | fractional
  | notFinite
  | below (least : Nat)
  | above (most : Nat)
  | notPath
  | incomplete (missing : List String)
  deriving DecidableEq, Repr

namespace Reason

/-- A short word for the reason. -/
def code : Reason → String
  | .notText => "string_type"
  | .notBackend => "literal_error"
  | .notInteger => "int_type"
  | .malformedInteger => "int_parsing"
  | .oversizedInteger => "int_parsing_size"
  | .fractional => "int_from_float"
  | .notFinite => "finite_number"
  | .below _ => "greater_than_equal"
  | .above _ => "less_than_equal"
  | .notPath => "path_type"
  | .incomplete _ => "value_error"

/-- What must be given together, and which of it is not there. -/
def incompleteText (missing : List String) : String :=
  "docker username, password and email must be specified together (missing: " ++
    String.intercalate ", " missing ++ ")"

def message : Reason → String
  | .notText => "Input should be a valid string"
  | .notBackend => "Input should be 'kind' or 'test'"
  | .notInteger => "Input should be a valid integer"
  | .malformedInteger =>
    "Input should be a valid integer, unable to parse string as an integer"
  | .oversizedInteger =>
    "Unable to parse input string as an integer, exceeded maximum size"
  | .fractional =>
    "Input should be a valid integer, got a number with a fractional part"
  | .notFinite => "Input should be a finite number"
  | .below least => s!"Input should be greater than or equal to {least}"
  | .above most => s!"Input should be less than or equal to {most}"
  | .notPath => "Input is not a valid path for <class 'pathlib.Path'>"
  | .incomplete missing => "Value error, " ++ incompleteText missing

/-- The reason in words, as it is passed on to the user. -/
def summary : Reason → String
  | .incomplete missing => incompleteText missing
  | r => r.message

end Reason

/-- One thing that is wrong. -/
structure Complaint where
  field : Option String
  reason : Reason
  input : Datum

/-- The lines that report a complaint, each after a line end. -/
def Complaint.text (c : Complaint) : String :=
  let place := match c.field with
    | some name => "\n" ++ name
    | none => ""
  place ++ "\n  " ++ c.reason.message ++ " [type=" ++ c.reason.code ++
    ", input_value=" ++
    Text.shorten c.input.literal ++ ", input_type=" ++ c.input.typeName ++ "]"

/-- The complaints about one group of settings. -/
structure Invalid where
  group : String
  complaints : List Complaint

namespace Invalid

def message (e : Invalid) : String :=
  let n := e.complaints.length
  toString n ++ " validation error" ++ (if n = 1 then "" else "s") ++
    " for " ++ e.group ++
    String.join (e.complaints.map Complaint.text)

/-- The reasons only, as they are passed on to the user. -/
def summary (e : Invalid) : String :=
  String.intercalate "; " (e.complaints.map fun c => c.reason.summary)

end Invalid

end SingleNode.Settings
