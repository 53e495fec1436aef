/-
# Shortened text

A text that takes more than fifty bytes is shown by its two ends with three dots
between. No character is cut: each end keeps the characters that fit.
-/

namespace SingleNode.Text

/-- The first characters that together take at most `room` bytes. -/
def takeBytes (room : Nat) : List Char → List Char
  | [] => []
  | c :: rest =>
    if c.utf8Size ≤ room then c :: takeBytes (room - c.utf8Size) rest else []

/-- The text itself if it takes at most fifty bytes, else its first 25 and its
last 24 bytes. -/
def shorten (s : String) : String :=
  if s.utf8ByteSize ≤ 50 then s
  else
    let cs := s.toList
    String.ofList
      (takeBytes 25 cs ++ "...".toList ++ (takeBytes 24 cs.reverse).reverse)

end SingleNode.Text
