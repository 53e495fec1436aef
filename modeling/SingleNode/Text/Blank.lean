/-
# Blank characters and line breaks

Two classes of blank: the Unicode `White_Space` property, which numbers are
trimmed by, and the wider class used for trimming prose, which adds the four
information separators U+001C to U+001F. Lines end at any Unicode line boundary;
a carriage return and a line feed together are one end.
-/

namespace SingleNode.Text

/-- Holds exactly for the characters with the Unicode property `White_Space`. -/
def isWhiteSpace (c : Char) : Bool :=
  let n := c.toNat
  (9 ≤ n && n ≤ 13) || n == 0x20 || n == 0x85 || n == 0xA0 || n == 0x1680 ||
    (0x2000 ≤ n && n ≤ 0x200A) || n == 0x2028 || n == 0x2029 || n == 0x202F ||
      n == 0x205F ||
    n == 0x3000

/-- White space, or one of the information separators U+001C to U+001F. -/
def isBlank (c : Char) : Bool :=
  isWhiteSpace c || (0x1C ≤ c.toNat && c.toNat ≤ 0x1F)

/-- Drops the characters of a class from both ends. -/
def trimList (p : Char → Bool) (cs : List Char) : List Char :=
  ((cs.dropWhile p).reverse.dropWhile p).reverse

/-- The text without the blanks at its two ends. -/
def trim (s : String) : String :=
  String.ofList (trimList isBlank s.toList)

/-- Characters that end a line. -/
def isLineEnd (c : Char) : Bool :=
  let n := c.toNat
  (10 ≤ n && n ≤ 13) || (0x1C ≤ n && n ≤ 0x1E) || n == 0x85 ||
    n == 0x2028 || n == 0x2029

/-- The lines of a text without their ends. A last line that is empty does not
count. -/
def lineList : List Char → List (List Char)
  | [] => []
  | '\r' :: '\n' :: rest => [] :: lineList rest
  | c :: rest =>
    if isLineEnd c then [] :: lineList rest
    else
      match lineList rest with
      | [] => [[c]]
      | line :: more => (c :: line) :: more

/-- The lines of a text, as strings. -/
def lines (s : String) : List String :=
  (lineList s.toList).map String.ofList

/-- Cuts a text at every occurrence of one character; there is always one piece
more than cuts. -/
def splitList (mark : Char) : List Char → List (List Char)
  | [] => [[]]
  | c :: rest =>
    if c = mark then [] :: splitList mark rest
    else
      match splitList mark rest with
      | [] => [[c]]
      | piece :: more => (c :: piece) :: more

/-- The pieces of a text between the occurrences of one character. -/
def split (mark : Char) (s : String) : List String :=
  (splitList mark s.toList).map String.ofList

/-- White space is blank, so trimming blanks also removes every white space. -/
theorem isBlank_of_isWhiteSpace {c : Char} (h : isWhiteSpace c = true) :
    isBlank c = true := by
  simp [isBlank, h]

/-- The empty line that follows a last line end is not a line. -/
example : lines "a\r\nb\n" = ["a", "b"] := by cbv

example : split ',' ",a," = ["", "a", ""] := by cbv

end SingleNode.Text
