/-
# Reading integers

Two grammars of integer text. The liberal one takes the decimal digits of every
script and is used for numbers that other programs report. The strict one takes
ASCII digits only, and a fraction of zeros; it is used for settings. Both trim
white space, take one sign and let single underscores stand between digits.

A strict integer is a plain one, or it is reduced to a plain one: an optional
minus sign and digits without leading zeros.
-/
import SingleNode.Text.Blank
import SingleNode.Text.Digit

namespace SingleNode.Text

/-- The most digits that an integer may be written with. The liberal grammar
counts leading zeros. -/
def maxDigits : Nat := 4300

/-- The digits of a text in which single underscores may stand between
digits. -/
def groupedDigits? (digit? : Char → Option Nat) : List Char → Option (List Nat)
  | [] => none
  | [c] => (digit? c).map fun d => [d]
  | c :: '_' :: rest => do
    let d ← digit? c
    let ds ← groupedDigits? digit? rest
    return d :: ds
  | c :: rest => do
    let d ← digit? c
    let ds ← groupedDigits? digit? rest
    return d :: ds

/-- Takes a sign off: whether the number is negative, and the rest. -/
def splitSign : List Char → Bool × List Char
  | '-' :: rest => (true, rest)
  | '+' :: rest => (false, rest)
  | cs => (false, cs)

/-- The number with a sign and a magnitude. -/
def signed (negative : Bool) (n : Nat) : Int :=
  if negative then -(n : Int) else n

/-- Reads an integer written in decimal digits of any script, at most
`maxDigits` of them. -/
def readInteger? (s : String) : Option Int :=
  let (negative, body) := splitSign (trimList isWhiteSpace s.toList)
  match groupedDigits? digitValue? body with
  | none => none
  | some ds =>
    if ds.length ≤ maxDigits then some (signed negative (ofDigits ds)) else none

/-- What is wrong with a text that should be an integer. -/
inductive IntegerProblem
  | malformed
  | oversized
  deriving DecidableEq, Repr

/-- Takes a fraction off that consists of a point and at least one zero. -/
def dropZeroFraction (cs : List Char) : List Char :=
  match cs.span (· != '.') with
  | (whole, '.' :: fraction) =>
    if !fraction.isEmpty && fraction.all (· == '0') then whole else cs
  | _ => cs

/-- Takes the leading zeros off a number without a sign, and the underscores
among them; the last zero or underscore stays if nothing else is left before the
end or the point. What follows the zeros starts with a digit or a minus sign.
Fails if the text does not start with a digit. -/
def dropLeadingZeros : List Char → Option (List Char)
  | '0' :: rest => afterZero '0' rest
  | c :: rest => if (asciiDigit? c).isSome then some (c :: rest) else none
  | [] => none
where
  /-- The rest of a number whose last character read was `last`, a zero or an
  underscore. -/
  afterZero (last : Char) : List Char → Option (List Char)
    | [] => some [last]
    | c :: rest =>
      if c = '0' || c = '_' then afterZero c rest
      else if c = '.' then some (last :: c :: rest)
      else if c = '-' || (asciiDigit? c).isSome then some (c :: rest)
      else none

/-- Holds if a character stands twice in a row. -/
def hasPair (mark : Char) : List Char → Bool
  | a :: b :: rest => (a = mark && b = mark) || hasPair mark (b :: rest)
  | _ => false

/-- Drops underscores that stand alone and not at an end. If one does not, all
are kept. -/
def dropUnderscores (cs : List Char) : List Char :=
  if cs.head? = some '_' || cs.getLast? = some '_' || hasPair '_' cs then cs
  else cs.filter (· != '_')

/-- Reads an optional minus sign and digits without leading zeros. More than
`maxDigits` digits are too many, whatever follows them. -/
def readPlain (cs : List Char) : Except IntegerProblem Int :=
  let (negative, body) :=
    match cs with
    | '-' :: rest => (true, rest)
    | _ => (false, cs)
  match body with
  | '0' :: rest => if rest.isEmpty then .ok 0 else .error .malformed
  | _ =>
    if maxDigits <
      (body.takeWhile fun c =>
      (asciiDigit? c).isSome).length then .error .oversized
    else
      match body.mapM asciiDigit? with
      | some (d :: ds) => .ok (signed negative (ofDigits (d :: ds)))
      | _ => .error .malformed

/-- A number with its sign but without leading zeros and without a plus sign. A
plus sign is not followed by a minus sign. -/
def dropZerosAfterSign : List Char → Option (List Char)
  | '-' :: rest => (dropLeadingZeros rest).map fun cs => '-' :: cs
  | '+' :: rest => dropLeadingZeros rest
  | cs => dropLeadingZeros cs

/-- The text of an integer reduced to a plain one: without white space around
it, a plus sign, leading zeros, a fraction of zeros, and underscores. -/
def reduceInteger (cs : List Char) : Option (List Char) :=
  (dropZerosAfterSign (trimList isWhiteSpace cs)).map fun cs =>
    dropUnderscores (dropZeroFraction cs)

/-- Reads an integer in ASCII digits. Only the text as it stands can have too
many digits; a reduced one that has is malformed. -/
def readStrictInteger (s : String) : Except IntegerProblem Int :=
  match readPlain s.toList with
  | .error .malformed =>
    match (reduceInteger s.toList).map readPlain with
    | some (.ok n) => .ok n
    | _ => .error .malformed
  | r => r

example : readInteger? " +6_5535 " = some 65535 := by decide +kernel

example : readStrictInteger "0_30.0" = .ok 30 := by cbv

example : readStrictInteger "30." = .error .malformed := by cbv

example : readStrictInteger "-0__30" = .ok (-30) := by cbv

example : readStrictInteger "-_30" = .error .malformed := by cbv

end SingleNode.Text
