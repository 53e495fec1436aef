/-
# Quoted text

Text inside a diagnostic stands between quotes: single ones, or double ones when
the text has a single quote and no double quote. The backslash and the quote in
use are escaped, so are the characters that do not print; every other character
stands as itself. Bytes are quoted like text of ASCII characters, all other
bytes being escaped.
-/
import SingleNode.Text.Hex
import SingleNode.Text.Printable

namespace SingleNode.Text

/-- The quote around a text: double only if that saves escaping a single
quote. -/
def quoteFor (cs : List Char) : Char :=
  if cs.contains '\'' && !cs.contains '"' then '"' else '\''

/-- The escape of a character that does not print, by the size of its code
point. -/
def codeEscape (c : Char) : List Char :=
  let n := c.toNat
  if n ≤ 0xFF then '\\' :: 'x' :: hexLower 2 n
  else if n ≤ 0xFFFF then '\\' :: 'u' :: hexLower 4 n
  else '\\' :: 'U' :: hexLower 8 n

/-- How one character stands between quotes of the given kind. -/
def quotedChar (quote c : Char) : List Char :=
  if c = '\\' || c = quote then ['\\', c]
  else if c = '\n' then ['\\', 'n']
  else if c = '\r' then ['\\', 'r']
  else if c = '\t' then ['\\', 't']
  else if isPrintable c then [c]
  else codeEscape c

/-- The quoted form of a list of characters. -/
def quotedList (cs : List Char) : List Char :=
  let quote := quoteFor cs
  quote :: cs.flatMap (quotedChar quote) ++ [quote]

/-- The quoted form of a text. -/
def quoted (s : String) : String :=
  String.ofList (quotedList s.toList)

/-- How one byte stands between quotes of the given kind: only ASCII stands as
characters. -/
def quotedByte (quote : Char) (b : UInt8) : List Char :=
  let c := Char.ofNat b.toNat
  if b < 0x7F then quotedChar quote c else codeEscape c

/-- The quoted form of a list of bytes, marked by a letter in front. -/
def quotedBytes (bytes : List UInt8) : String :=
  let quote := quoteFor (bytes.map fun b => Char.ofNat b.toNat)
  String.ofList ('b' :: quote :: bytes.flatMap (quotedByte quote) ++ [quote])

example : quoted "it's" = "\"it's\"" := by cbv

example : quoted "a\t\\" = "'a\\t\\\\'" := by cbv

example : quotedBytes [0x61, 0x27, 0xC3] = "b\"a'\\xc3\"" := by cbv

end SingleNode.Text
