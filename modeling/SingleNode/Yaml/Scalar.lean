/-
# YAML scalars

A text is written plain if a reader cannot take it for anything but that text,
else in single quotes if it only has printable ASCII and harmless line breaks,
else in double quotes with escapes. Long text is folded: a plain or
single-quoted one at a single space, a double-quoted one before a space or after
an escape, as soon as the column is past the width.
-/
import SingleNode.Text.Hex
import SingleNode.Text.Digit

namespace SingleNode.Yaml

/-- The three ways in which a scalar may stand. -/
inductive Style
  | plain
  | single
  | double
  deriving DecidableEq, Repr

/-- The column past which text is folded. -/
def width : Nat := 80

/-- Line breaks of YAML. -/
def isBreak (c : Char) : Bool :=
  c = '\n' || c = '\x85' || c = '\u2028' || c = '\u2029'

/-- Characters that separate: NUL, blanks and line breaks. -/
def isSeparator (c : Char) : Bool :=
  c = '\x00' || c = ' ' || c = '\t' || c = '\r' || isBreak c

/-- Characters that need no escape in double quotes, quote and backslash
apart. -/
def isPrintableAscii (c : Char) : Bool :=
  0x20 ≤ c.toNat && c.toNat ≤ 0x7E

/-! ## Texts that a reader takes for another type -/

/-- Matches one of a list of words. -/
def isOneOf (words : List String) (cs : List Char) : Bool :=
  words.any fun w => w.toList == cs

/-- Words that read as truth values. -/
def truthWords : List String :=
  ["yes", "Yes", "YES", "no", "No", "NO", "true", "True", "TRUE", "false",
    "False", "FALSE", "on", "On", "ON", "off", "Off", "OFF"]

/-- Words that read as the absent value, the empty text included. -/
def nullWords : List String := ["", "~", "null", "Null", "NULL"]

/-- Texts that read as a merge key, a default value or an unused mark. -/
def reservedWords : List String := ["<<", "=", "!", "&", "*"]

def isDigit (c : Char) : Bool := (Text.asciiDigit? c).isSome

/-- A digit or an underscore. -/
def isDigitLike (c : Char) : Bool := isDigit c || c = '_'

/-- The text without one sign at its front. -/
def dropSign : List Char → List Char
  | '+' :: rest => rest
  | '-' :: rest => rest
  | cs => cs

/-- One or more parts `:` and a number below sixty, each of one or two
digits. -/
def isSexagesimalTail : List Char → Bool
  | ':' :: a :: b :: rest =>
    if isDigit b then '0' ≤ a && a ≤ '5' &&
      (rest.isEmpty || isSexagesimalTail rest)
    else isDigit a && isSexagesimalTail (b :: rest)
  | [':', a] => isDigit a
  | _ => false

/-- Whole numbers: binary, octal, decimal, hexadecimal and in base sixty. -/
def isIntegerLike (cs : List Char) : Bool :=
  match dropSign cs with
  | ['0'] => true
  | '0' :: 'b' :: rest =>
    !rest.isEmpty && rest.all fun c => c = '0' || c = '1' || c = '_'
  | '0' :: 'x' :: rest =>
    !rest.isEmpty && rest.all fun c =>
      isDigitLike c || ('a' ≤ c && c ≤ 'f') || ('A' ≤ c && c ≤ 'F')
  | '0' :: rest => rest.all fun c => ('0' ≤ c && c ≤ '7') || c = '_'
  | c :: rest =>
    isDigit c &&
      let tail := rest.dropWhile isDigitLike
      tail.isEmpty || isSexagesimalTail tail
  | [] => false

/-- Nothing, or an exponent: `e`, a sign and digits. -/
def isExponentEnd : List Char → Bool
  | [] => true
  | e :: sign :: d :: rest =>
    (e = 'e' || e = 'E') && (sign = '+' || sign = '-') && isDigit d &&
      rest.all isDigit
  | _ => false

/-- Digits of the fraction, then nothing or an exponent. -/
def isFraction (cs : List Char) : Bool :=
  isExponentEnd (cs.dropWhile isDigitLike)

/-- Base-sixty parts, then a point and digits to the end. -/
def isSexagesimalReal (cs : List Char) : Bool :=
  match cs.span (· != '.') with
  | (parts, '.' :: fraction) =>
    isSexagesimalTail parts && fraction.all isDigitLike
  | _ => false

/-- Numbers with a point, infinities and the undefined number. -/
def isRealLike (cs : List Char) : Bool :=
  isOneOf [".nan", ".NaN", ".NAN"] cs ||
    isOneOf [".inf", ".Inf", ".INF"] (dropSign cs) ||
    (match cs with
      | '.' :: d :: rest => isDigit d && isFraction rest
      | _ => false) ||
    (match dropSign cs with
      | d :: rest =>
        isDigit d &&
          (match rest.dropWhile isDigitLike with
            | '.' :: fraction => isFraction fraction
            | tail => isSexagesimalReal tail)
      | [] => false)

/-- Takes exactly `n` digits off. -/
def takeDigits : Nat → List Char → Option (List Char)
  | 0, cs => some cs
  | n + 1, c :: rest => if isDigit c then takeDigits n rest else none
  | _ + 1, [] => none

/-- Takes one or two digits off, two if there are two. -/
def takeShort (cs : List Char) : Option (List Char) :=
  (takeDigits 2 cs).orElse fun _ => takeDigits 1 cs

def takeChar (mark : Char) : List Char → Option (List Char)
  | c :: rest => if c = mark then some rest else none
  | [] => none

/-- A calendar day with all its digits. -/
def isDate (cs : List Char) : Bool :=
  (do
    let cs ← takeDigits 4 cs
    let cs ← takeChar '-' cs
    let cs ← takeDigits 2 cs
    let cs ← takeChar '-' cs
    takeDigits 2 cs) == some []

/-- Blanks inside a time stamp. -/
def isStampBlank (c : Char) : Bool := c = ' ' || c = '\t'

/-- Nothing, or the zone of a time stamp: `Z`, or a sign and hours with or
without minutes. -/
def isZone (cs : List Char) : Bool :=
  match cs.dropWhile isStampBlank with
  | [] => cs.isEmpty
  | 'Z' :: rest => rest.isEmpty
  | c :: rest =>
    (c = '+' || c = '-') &&
      match takeShort rest with
      | some [] => true
      | some (':' :: minutes) => takeDigits 2 minutes == some []
      | _ => false

/-- The parts of a time stamp after its date: a mark or blanks, the time of day
and a zone. -/
def isTimeOfDay (cs : List Char) : Bool :=
  let time? : Option (List Char) :=
    match cs with
    | 'T' :: rest => some rest
    | 't' :: rest => some rest
    | c :: rest =>
      if isStampBlank c then some (rest.dropWhile isStampBlank) else none
    | [] => none
  let rest? := do
    let cs ← time?
    let cs ← takeShort cs
    let cs ← takeChar ':' cs
    let cs ← takeDigits 2 cs
    let cs ← takeChar ':' cs
    takeDigits 2 cs
  match rest? with
  | some ('.' :: fraction) => isZone (fraction.dropWhile isDigit)
  | some rest => isZone rest
  | none => false

/-- A day, and possibly a time on it. -/
def isTimestamp (cs : List Char) : Bool :=
  isDate cs ||
    match (do
      let cs ← takeDigits 4 cs
      let cs ← takeChar '-' cs
      let cs ← takeShort cs
      let cs ← takeChar '-' cs
      takeShort cs) with
    | some rest => isTimeOfDay rest
    | none => false

/-- Holds if a plain scalar with this text would not be read as text. -/
def readsAsOther (cs : List Char) : Bool :=
  isOneOf truthWords cs || isOneOf nullWords cs || isOneOf reservedWords cs ||
    isIntegerLike cs ||
    isRealLike cs || isTimestamp cs

/-! ## Which style a text may have -/

/-- Marks with a meaning at the front of a scalar. -/
def leadingMarks : List Char := "#,[]\x7b\x7d&*!|>'\"%@\x60".toList

/-- Holds if some mark in the rest of a text, after the given character, has a
meaning: a colon before a separator or the end, or a hash after a separator. -/
def hasInnerMark : Char → List Char → Bool
  | _, [] => false
  | before, c :: rest =>
    (c = ':' && rest.head?.all isSeparator) || (c = '#' && isSeparator before)
      || hasInnerMark c rest

/-- Holds if marks in the text would be taken for structure. -/
def hasIndicator : List Char → Bool
  | [] => false
  | c :: rest =>
    let alone := rest.head?.all isSeparator
    (c :: rest).take 3 == ['-', '-', '-'] ||
      (c :: rest).take 3 == ['.', '.', '.'] || leadingMarks.contains c ||
      ((c = '?' || c = ':' || c = '-') && alone) || hasInnerMark c rest

/-- Holds if every character is printable ASCII or a line feed. -/
def isAsciiText (cs : List Char) : Bool :=
  cs.all fun c => c = '\n' || isPrintableAscii c

/-- Holds if a line break stands beside a space. -/
def hasBreakBesideSpace : List Char → Bool
  | a :: b :: rest =>
    (isBreak a && b = ' ') || (a = ' ' && isBreak b) ||
      hasBreakBesideSpace (b :: rest)
  | _ => false

/-- A space or a line break. -/
def isSpaceOrBreak (c : Char) : Bool := c = ' ' || isBreak c

/-- Holds if a text in single quotes is read back unchanged. -/
def allowsSingle (cs : List Char) : Bool :=
  isAsciiText cs && !hasBreakBesideSpace cs

/-- Holds if a plain text is read back as itself, were it not for its type. -/
def allowsPlain (cs : List Char) : Bool :=
  allowsSingle cs && !cs.any isBreak && !(cs.head?.any isSpaceOrBreak) &&
    !(cs.getLast?.any isSpaceOrBreak) && !hasIndicator cs

def styleOf (cs : List Char) : Style :=
  if allowsPlain cs && !readsAsOther cs then .plain
  else if allowsSingle cs then .single
  else .double

/-! ## Writing -/

def newLine (indent : Nat) : List Char :=
  '\n' :: List.replicate indent ' '

/-- Plain text that continues at a column; `before` is the character in front of
it. A single space past the width becomes a new line. -/
def plainBody (indent : Nat) (column : Nat) (before : Char) :
    List Char → List Char
  | [] => []
  | c :: rest =>
    if c = ' ' && before != ' ' && !(rest.head?.any (· = ' ')) &&
      width < column then
      newLine indent ++ plainBody indent indent c rest
    else c :: plainBody indent (column + 1) c rest

/-- Single-quoted text that continues at a column. `before` is the character in
front of it, if any. A quote is doubled. A single space past the width becomes a
new line, unless it is the first or the last character. A run of line breaks has
one more at its front, and is followed by indentation. -/
def singleBody (indent : Nat) (column : Nat) (before : Option Char) :
    List Char → List Char
  | [] => []
  | c :: rest =>
    if c = '\'' then '\'' :: '\'' :: singleBody indent (column + 2)
      (some c) rest
    else if isBreak c then
      let lead := if before.any isBreak then [] else ['\n']
      if rest.head?.any isBreak then lead ++ c ::
        singleBody indent 0 (some c) rest
      else lead ++ c :: List.replicate indent ' ' ++ singleBody indent indent
        (some c) rest
    else if c = ' ' && before.any (· != ' ') && rest.head?.any (· != ' ') &&
      width < column then
      newLine indent ++ singleBody indent indent (some c) rest
    else c :: singleBody indent (column + 1) (some c) rest

/-- Holds for the characters that double quotes do not escape. -/
def isVerbatim (c : Char) : Bool :=
  isPrintableAscii c && c != '"' && c != '\\'

/-- The letters of the short escapes. -/
def escapeLetter? (c : Char) : Option Char :=
  (("\x00\x07\x08\t\n\x0b\x0c\r\x1b\"\\\x85\xa0\u2028\u2029".toList.zip
    "0abtnvfre\"\\N_LP".toList).find? (·.1 == c)).map Prod.snd

def escape (c : Char) : List Char :=
  match escapeLetter? c with
  | some letter => ['\\', letter]
  | none =>
    let n := c.toNat
    if n ≤ 0xFF then '\\' :: 'x' :: Text.hexUpper 2 n
    else if n ≤ 0xFFFF then '\\' :: 'u' :: Text.hexUpper 4 n
    else '\\' :: 'U' :: Text.hexUpper 8 n

/-- The end of a folded line in double quotes, and the start of the next one. A
space that comes next is kept by a backslash. -/
def foldLine (indent : Nat) (beforeSpace : Bool) : List Char :=
  '\\' :: newLine indent ++ (if beforeSpace then ['\\'] else [])

def foldColumn (indent : Nat) (beforeSpace : Bool) : Nat :=
  if beforeSpace then indent + 1 else indent

/-- Double-quoted text that continues at a column. Folding is allowed before a
space, and before any character that follows an escape (`open`), but not at the
first or the last character. -/
def doubleBody (indent : Nat) (column : Nat) (atStart fresh : Bool) :
    List Char → List Char
  | [] => []
  | c :: rest =>
    let inside := !atStart && !rest.isEmpty
    if isVerbatim c then
      if inside && (c = ' ' || fresh) && width < column then
        foldLine indent (c = ' ') ++
          c :: doubleBody indent (foldColumn indent (c = ' ') + 1)
            false false rest
      else c :: doubleBody indent (column + 1) false false rest
    else
      let mark := escape c
      let column := column + mark.length
      if inside && width + 1 < column then
        let beforeSpace := rest.head?.any (· = ' ')
        mark ++ foldLine indent beforeSpace ++
          doubleBody indent (foldColumn indent beforeSpace) false true rest
      else mark ++ doubleBody indent column false true rest

/-- A text as a scalar whose first character stands at `column`, with
continuation lines indented. -/
def scalar (indent column : Nat) (cs : List Char) : List Char :=
  match styleOf cs with
  | .plain => plainBody indent column ' ' cs
  | .single => '\'' :: singleBody indent (column + 1) none cs ++ ['\'']
  | .double => '"' :: doubleBody indent (column + 1) true true cs ++ ['"']

end SingleNode.Yaml
