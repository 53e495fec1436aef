/-
# Reading documents

The reader of documents in block style: a mapping with text keys, each on a line
of its own, whose values are scalars, empty collections, or blocks on the lines
that follow.  A block behind a key is indented more than the key, or is a
sequence as far as it; a block behind a dash starts on its line.  Whatever is
not of this form is refused, and so are two fields with one key.

The readers of blocks call each other on less and less text.  They are bounded
by `fuel`, and the length of the text is enough, since every call has at least
one more character behind it.
-/
import SingleNode.Proofs.Yaml.Forms

namespace SingleNode.Yaml.Reader

/-! ## Scalars and keys -/

/-- A text that was read in quotes. -/
def quoted (r : Option (List Char × List Char)) : Option (Node × List Char) :=
  r.map fun p => (.text (String.ofList p.1), p.2)

/-- Reads a scalar or an empty collection in a block at the given column. -/
def readScalar (block : Nat) : List Char → Option (Node × List Char)
  | '[' :: ']' :: rest => some (.sequence [], rest)
  | '\x7b' :: '\x7d' :: rest => some (.mapping [], rest)
  | '\'' :: rest => quoted (readSingle block (.spaces 0) rest)
  | '"' :: rest => quoted (readDouble block (.spaces 0) rest)
  | cs => do
    guard (startsPlain cs)
    let (text, rest) ← readPlain (some block) (.spaces 0) cs
    return (← resolve text, rest)

/-- Reads a scalar that ends with its line. -/
def readValue (block : Nat) (cs : List Char) : Option (Node × List Char) :=
  match readScalar block cs with
  | some (value, '\n' :: rest) => some (value, rest)
  | _ => none

/-- Reads a key and the colon behind it. Only text that stands plain on one line
is a key. -/
def readKey (cs : List Char) : Option (String × List Char) := do
  guard (startsPlain cs)
  match ← readPlain none (.spaces 0) cs with
  | (text, ':' :: rest) =>
    match resolve text with
    | some (.text key) => some (key, rest)
    | _ => none
  | _ => none

/-! ## Blocks -/

/-- Holds at the dash of an entry. -/
def isItem : List Char → Bool
  | '-' :: rest => rest.head?.all isBlank
  | _ => false

/-- The text of the next line, if it starts at the given column. -/
def lineAt : Nat → List Char → Option (List Char)
  | 0, c :: rest => if isBlank c then none else some (c :: rest)
  | n + 1, c :: rest => if c = ' ' then lineAt n rest else none
  | _, [] => none

mutual

/-- Reads what stands behind the colon of a key at the given column. -/
def readAfterKey (fuel column : Nat) (cs : List Char) :
    Option (Node × List Char) :=
  match fuel, cs with
  | _ + 1, ' ' :: rest => readValue column rest
  | fuel + 1, '\n' :: rest => do
    let next ← nextColumn 0 rest
    let body ← lineAt next rest
    if isItem body then
      guard (column ≤ next)
      let (items, rest) ← readItems fuel next body
      return (.sequence items, rest)
    else
      guard (column < next)
      let (fields, rest) ← readFields fuel next body
      return (.mapping fields, rest)
  | _, _ => none

/-- Reads what stands behind a dash at the given column. -/
def readAfterDash (fuel column : Nat) (cs : List Char) :
    Option (Node × List Char) :=
  match fuel, cs with
  | fuel + 1, ' ' :: rest =>
    (readValue column rest).orElse fun _ =>
      if isItem rest then do
        let (items, rest) ← readItems fuel (column + 2) rest
        return (.sequence items, rest)
      else do
        let (fields, rest) ← readFields fuel (column + 2) rest
        return (.mapping fields, rest)
  | _, _ => none

/-- Reads the entries of a sequence from the dash of one of them on. -/
def readItems (fuel column : Nat) (cs : List Char) :
    Option (List Node × List Char) :=
  match fuel, cs with
  | fuel + 1, '-' :: rest => do
    let (item, rest) ← readAfterDash fuel column rest
    match lineAt column rest with
    | some body =>
      if isItem body then
        let (items, rest) ← readItems fuel column body
        return (item :: items, rest)
      else return ([item], rest)
    | none => return ([item], rest)
  | _, _ => none

/-- Reads the fields of a mapping from the key of one of them on. -/
def readFields (fuel column : Nat) (cs : List Char) :
    Option (List (String × Node) × List Char) :=
  match fuel with
  | fuel + 1 => do
    let (key, rest) ← readKey cs
    let (value, rest) ← readAfterKey fuel column rest
    match lineAt column rest with
    | some body =>
      let (fields, rest) ← readFields fuel column body
      guard (key ∉ fields.map Prod.fst)
      return ((key, value) :: fields, rest)
    | none => return ([(key, value)], rest)
  | 0 => none

end

/-- Reads a document whose root is a mapping. -/
def read (text : String) : Option Node :=
  match readFields text.toList.length 0 text.toList with
  | some (fields, []) => some (.mapping fields)
  | _ => none

end SingleNode.Yaml.Reader
