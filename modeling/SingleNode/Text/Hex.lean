/-
# Hexadecimal digits

Code points are written in hexadecimal with a least number of digits, filled
with zeros on the left.
-/

namespace SingleNode.Text

/-- The lower-case hexadecimal digits of a number, at least `width` of them. -/
def hexLower (width n : Nat) : List Char :=
  (Nat.toDigits 16 n).leftpad width '0'

/-- The upper-case hexadecimal digits of a number, at least `width` of them. -/
def hexUpper (width n : Nat) : List Char :=
  (hexLower width n).map Char.toUpper

example : hexUpper 4 0xFEFF = "FEFF".toList := by decide

end SingleNode.Text
