/-
# YAML documents in block style

A document is a tree of texts, whole numbers, sequences and mappings with text
keys in a given order. It is written in block style: a mapping inside a mapping
is indented by two, a sequence inside a mapping is not indented, and an entry of
a sequence starts behind its dash.
-/
import SingleNode.Yaml.Scalar

namespace SingleNode.Yaml

/-- A node of a document. -/
inductive Node
  | text (s : String)
  | integer (n : Int)
  | sequence (items : List Node)
  | mapping (fields : List (String × Node))

namespace Node

mutual

/-- A node behind a key or a dash that ends at `column`, on a line whose block
is indented by `indent`. `afterKey` tells a key from a dash. The text starts
behind the mark and ends with the line. -/
def renderAfter (indent column : Nat) (afterKey : Bool) : Node → List Char
  | .text s => ' ' :: scalar (indent + 2) (column + 1) s.toList ++ ['\n']
  | .integer n => ' ' :: (toString n).toList ++ ['\n']
  | .sequence [] => " []\n".toList
  | .mapping [] => " \x7b\x7d\n".toList
  | .sequence items =>
    if afterKey then '\n' :: renderItems indent false items
    else ' ' :: renderItems (indent + 2) true items
  | .mapping fields =>
    if afterKey then '\n' :: renderFields (indent + 2) false fields
    else ' ' :: renderFields (indent + 2) true fields

/-- The entries of a sequence, one after the other; `inline` tells that the
first one continues a line. -/
def renderItems (indent : Nat) (inline : Bool) : List Node → List Char
  | [] => []
  | item :: rest =>
    (if inline then [] else List.replicate indent ' ') ++
      '-' :: renderAfter indent (indent + 1) false item ++
        renderItems indent false rest

/-- The fields of a mapping, one after the other. -/
def renderFields (indent : Nat) (inline : Bool) :
    List (String × Node) → List Char
  | [] => []
  | (key, value) :: rest =>
    let name := scalar indent indent key.toList
    (if inline then [] else List.replicate indent ' ') ++
      name ++ ':' :: renderAfter indent (indent + name.length + 1) true value ++
      renderFields indent false rest

end

/-- The text of a document whose root is a mapping with the given fields. -/
def document (fields : List (String × Node)) : String :=
  String.ofList (renderFields 0 false fields)

end Node

end SingleNode.Yaml
