/-
# Untyped data

Arguments, daemon answers and telemetry attributes arrive without a fixed type.
A `Datum` is such a value; its literal text is what logs and diagnostics show,
and its plain text is what messages quote.
-/
import SingleNode.Assoc
import SingleNode.Binary64.Decimal
import SingleNode.Text.Quoted

namespace SingleNode

/-- A value whose type is known only when it is looked at. -/
inductive Datum
  | null
  | bool (b : Bool)
  | integer (n : Int)
  | real (x : Binary64)
  | text (s : String)
  | list (items : List Datum)
  | record (fields : List (String × Datum))
  deriving Inhabited

namespace Datum

/-- The name by which diagnostics call the type of a value. -/
def typeName : Datum → String
  | .null => "NoneType"
  | .bool _ => "bool"
  | .integer _ => "int"
  | .real _ => "float"
  | .text _ => "str"
  | .list _ => "list"
  | .record _ => "dict"

mutual

/-- The literal text of a value. -/
def literal : Datum → String
  | .null => "None"
  | .bool true => "True"
  | .bool false => "False"
  | .integer n => toString n
  | .real x => x.shortest
  | .text s => Text.quoted s
  | .list items => "[" ++ String.intercalate ", " (literals items) ++ "]"
  | .record fields =>
    "\x7b" ++ String.intercalate ", " (fieldLiterals fields) ++ "\x7d"

def literals : List Datum → List String
  | [] => []
  | d :: rest => d.literal :: literals rest

def fieldLiterals : List (String × Datum) → List String
  | [] => []
  | (key, d) :: rest =>
    (Text.quoted key ++ ": " ++ d.literal) :: fieldLiterals rest

end

/-- The text of a value inside a message: a text stands for itself. -/
def plain : Datum → String
  | .text s => s
  | d => d.literal

end Datum

end SingleNode
