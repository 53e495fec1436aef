/-
# Reading scalars

The scalars of a YAML document as they are read, by the rules of the language
for text of printable ASCII.  White space is kept back until it is known what
comes after it (`Gap`): spaces stand for themselves, but if there is a line
break among them it stands for a space, or for the empty lines after it, and the
spaces around it do not count.  A line that continues a scalar is indented more
than the block in which the scalar stands.

Each reader takes the text from a place inside a scalar on, and returns the rest
of the scalar and of the text.
-/
import SingleNode.Yaml.Node

namespace SingleNode.Yaml.Reader

/-- White space in a scalar, up to the place that is read. -/
inductive Gap
  | spaces (n : Nat)
  | broken (more column : Nat)
  | joined (more column : Nat)
  deriving DecidableEq, Repr

namespace Gap

/-- What the white space stands for: a line break for a space or for the empty
lines after it, one that is escaped for nothing or for these. -/
def text : Gap → List Char
  | .spaces n => List.replicate n ' '
  | .broken 0 _ => [' ']
  | .broken (n + 1) _ => List.replicate (n + 1) '\n'
  | .joined n _ => List.replicate n '\n'

def space : Gap → Gap
  | .spaces n => .spaces (n + 1)
  | .broken n column => .broken n (column + 1)
  | .joined n column => .joined n (column + 1)

/-- So many more spaces. -/
def widen (n : Nat) : Gap → Gap
  | .spaces k => .spaces (k + n)
  | .broken more column => .broken more (column + n)
  | .joined more column => .joined more (column + n)

theorem space_widen (gap : Gap) (n : Nat) :
    gap.space.widen n = gap.widen (n + 1) := by
  cases gap
  all_goals rw [space, widen, widen, Nat.add_right_comm, Nat.add_assoc]

def newLine : Gap → Gap
  | .spaces _ => .broken 0 0
  | .broken n _ => .broken (n + 1) 0
  | .joined n _ => .joined (n + 1) 0

/-- Holds if a scalar in a block at the given column can go on after the white
space. -/
def allows (block : Nat) : Gap → Bool
  | .spaces _ => true
  | .broken _ column => block < column
  | .joined _ column => block < column

end Gap

theorem read_replicate {α : Type} {f : Gap → List Char → α}
    (hf : ∀ gap rest, f gap (' ' :: rest) = f gap.space rest) (gap : Gap)
    (n : Nat) (rest : List Char) :
    f gap (List.replicate n ' ' ++ rest) = f (gap.widen n) rest := by
  induction n generalizing gap with
  | zero => cases gap <;> rfl
  | succ n ih =>
    rw [List.replicate_succ, List.cons_append, hf, ih, Gap.space_widen]

/-- The characters of which documents consist, line feeds apart. -/
def isPrintable (c : Char) : Bool := 0x20 ≤ c.toNat && c.toNat ≤ 0x7E

/-- What may stand behind a mark. -/
def isBlank (c : Char) : Bool := c = ' ' || c = '\n'

theorem forall_mem_of_all {p : Char → Prop} [DecidablePred p] {cs : List Char}
    (h : (cs.all fun c => decide (p c)) = true) : ∀ c ∈ cs, p c :=
  fun c hc => of_decide_eq_true (List.all_eq_true.mp h c hc)

/-- Puts characters in front of what was read. -/
def prepend (cs : List Char) (r : Option (List Char × List Char)) :
    Option (List Char × List Char) :=
  r.map fun p => (cs ++ p.1, p.2)

/-! ## Quotes -/

/-- Reads up to a closing single quote. Two quotes stand for one. -/
def readSingle (block : Nat) (gap : Gap) :
    List Char → Option (List Char × List Char)
  | [] => none
  | c :: rest =>
    if c = ' ' then readSingle block gap.space rest
    else if c = '\n' then readSingle block gap.newLine rest
    else if !gap.allows block then none
    else if c = '\'' then
      match rest with
      | '\'' :: rest =>
        prepend (gap.text ++ ['\'']) (readSingle block (.spaces 0) rest)
      | _ => some (gap.text, rest)
    else if isPrintable c then prepend (gap.text ++ [c])
      (readSingle block (.spaces 0) rest)
    else none

/-- The characters that short escapes stand for. -/
def shortEscapes : List (Char × Char) :=
  [('0', '\x00'), ('a', '\x07'), ('b', '\x08'), ('t', '\t'), ('n', '\n'),
    ('v', '\x0b'),
    ('f', '\x0c'), ('r', '\r'), ('e', '\x1b'), (' ', ' '), ('"', '"'),
      ('/', '/'), ('\\', '\\'),
    ('N', '\x85'), ('_', '\xa0'), ('L', '\u2028'), ('P', '\u2029')]

/-- The value of a hexadecimal digit. -/
def hexDigit? (c : Char) : Option Nat :=
  if '0' ≤ c ∧ c ≤ '9' then some (c.toNat - '0'.toNat)
  else if 'A' ≤ c ∧ c ≤ 'F' then some (c.toNat - 'A'.toNat + 10)
  else if 'a' ≤ c ∧ c ≤ 'f' then some (c.toNat - 'a'.toNat + 10)
  else none

/-- The character whose number the hexadecimal digits denote, if there is
one. -/
def codePoint? (digits : List Char) : Option Char := do
  let values ← digits.mapM hexDigit?
  let n := values.foldl (fun n d => 16 * n + d) 0
  if n.isValidChar then some (Char.ofNat n) else none

/-- Puts an escaped character in front of what was read, if it is one. -/
def prependEscaped (before : List Char) (c : Option Char)
    (r : Option (List Char × List Char)) :
    Option (List Char × List Char) :=
  c.bind fun c => prepend (before ++ [c]) r

/-- Reads up to a closing double quote. A backslash starts an escape; before a
line break it joins the lines. -/
def readDouble (block : Nat) (gap : Gap) :
    List Char → Option (List Char × List Char)
  | [] => none
  | c :: rest =>
    if c = ' ' then readDouble block gap.space rest
    else if c = '\n' then readDouble block gap.newLine rest
    else if !gap.allows block then none
    else if c = '"' then some (gap.text, rest)
    else if c = '\\' then
      match rest with
      | '\n' :: rest => prepend gap.text (readDouble block (.joined 0 0) rest)
      | 'x' :: a :: b :: rest =>
        prependEscaped gap.text (codePoint? [a, b])
          (readDouble block (.spaces 0) rest)
      | 'u' :: a :: b :: c :: d :: rest =>
        prependEscaped gap.text (codePoint? [a, b, c, d])
          (readDouble block (.spaces 0) rest)
      | 'U' :: a :: b :: c :: d :: e :: f :: g :: h :: rest =>
        prependEscaped gap.text (codePoint? [a, b, c, d, e, f, g, h])
          (readDouble block (.spaces 0) rest)
      | letter :: rest =>
        prependEscaped gap.text (shortEscapes.lookup letter)
          (readDouble block (.spaces 0) rest)
      | [] => none
    else if isPrintable c then prepend (gap.text ++ [c])
      (readDouble block (.spaces 0) rest)
    else none

/-! ## Plain scalars -/

/-- The column at which text goes on that starts at a column, empty lines left
out. -/
def nextColumn (column : Nat) : List Char → Option Nat
  | [] => none
  | c :: rest =>
    if c = ' ' then nextColumn (column + 1) rest
    else if c = '\n' then nextColumn 0 rest
    else some column

/-- Holds if the next lines continue a scalar that stands in the given block.
One that stands in none is confined to its line. -/
def continues (block : Option Nat) (rest : List Char) : Bool :=
  match block, nextColumn 0 rest with
  | some block, some column => block < column
  | _, _ => false

/-- Reads a plain scalar up to the line break after it, or to a colon that makes
it a key. White space at its end does not belong to it. Comments are not
read. -/
def readPlain (block : Option Nat) (gap : Gap) :
    List Char → Option (List Char × List Char)
  | [] => some ([], [])
  | c :: rest =>
    if c = ' ' then readPlain block gap.space rest
    else if c = '\n' then
      if continues block rest then readPlain block gap.newLine rest
        else some ([], c :: rest)
    else if c = ':' && rest.head?.all isBlank then some ([], c :: rest)
    else if c = '#' && !gap.text.isEmpty then none
    else if isPrintable c then prepend (gap.text ++ [c])
      (readPlain block (.spaces 0) rest)
    else none

/-- Marks that have a meaning at the front of a scalar. -/
def indicators : List Char := "-?:,[]\x7b\x7d#&*!|>'\"%@\x60".toList

/-- Holds if a plain scalar may start with the text: a dash, a question mark or
a colon only if no blank follows, another mark never, nor the marks between
documents. -/
def startsPlain : List Char → Bool
  | [] => false
  | c :: rest =>
    isPrintable c && c != ' ' &&
      (!indicators.contains c ||
        ((c = '-' || c = '?' || c = ':') && rest.head?.any fun d => !isBlank d))
          &&
      !(['-', '-', '-'].isPrefixOf (c :: rest)) &&
        !(['.', '.', '.'].isPrefixOf (c :: rest))

end SingleNode.Yaml.Reader
