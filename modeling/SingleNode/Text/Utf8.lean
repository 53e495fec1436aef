/-
# Reading UTF-8 that may be damaged

Bytes are decoded from left to right into characters and damaged places. A byte
that starts no character is a damaged place of its own. A character that breaks
off is a damaged place that ends before the byte that broke it, and that byte is
read afresh. Overlong forms, surrogates and code points above U+10FFFF are
refused at their second byte. A reader either refuses the first damaged place or
puts one U+FFFD for each.
-/

namespace SingleNode.Text

/-- What is wrong at a damaged place: a byte that starts no character, a byte
that does not go on with one, or the end inside one. -/
inductive Utf8Problem
  | start
  | continuation
  | truncated
  deriving DecidableEq, Repr

def Utf8Problem.reason : Utf8Problem → String
  | .start => "invalid start byte"
  | .continuation => "invalid continuation byte"
  | .truncated => "unexpected end of data"

/-- A damaged place: the bytes from `first` up to but not including `stop`. -/
structure Utf8Damage where
  first : Nat
  stop : Nat
  problem : Utf8Problem
  deriving DecidableEq, Repr

/-- What bytes are decoded to. -/
inductive Utf8Piece
  | char (c : Char)
  | damage (d : Utf8Damage)
  deriving DecidableEq, Repr

/-- Where a decoder stands: between characters, or inside the one that began at
`first`, with `need` bytes to come, of which the next lies between `low` and
`high`. -/
inductive Utf8Place
  | boundary
  | inside (first need value low high : Nat)

namespace Utf8Place

/-- Reads the byte at a position as the beginning of a character. -/
def start (i b : Nat) : List Utf8Piece × Utf8Place :=
  if b < 0x80 then ([.char (Char.ofNat b)], .boundary)
  else if 0xC2 ≤ b && b ≤ 0xDF then ([], .inside i 1 (b - 0xC0) 0x80 0xBF)
  else if b = 0xE0 then ([], .inside i 2 0 0xA0 0xBF)
  else if b = 0xED then ([], .inside i 2 0xD 0x80 0x9F)
  else if 0xE1 ≤ b && b ≤ 0xEF then ([], .inside i 2 (b - 0xE0) 0x80 0xBF)
  else if b = 0xF0 then ([], .inside i 3 0 0x90 0xBF)
  else if 0xF1 ≤ b && b ≤ 0xF3 then ([], .inside i 3 (b - 0xF0) 0x80 0xBF)
  else if b = 0xF4 then ([], .inside i 3 4 0x80 0x8F)
  else ([.damage ⟨i, i + 1, .start⟩], .boundary)

/-- Reads the byte at a position, and gives the pieces that are settled by
it. -/
def step (place : Utf8Place) (i b : Nat) : List Utf8Piece × Utf8Place :=
  match place with
  | .boundary => start i b
  | .inside first need value low high =>
    if low ≤ b && b ≤ high then
      let value := 64 * value + (b - 0x80)
      if need ≤ 1 then ([.char (Char.ofNat value)], .boundary)
      else ([], .inside first (need - 1) value 0x80 0xBF)
    else
      let (settled, next) := start i b
      (.damage ⟨first, i, .continuation⟩ :: settled, next)

/-- The pieces of the remaining bytes, of which the first stands at a
position. -/
def decode (i : Nat) : Utf8Place → List UInt8 → List Utf8Piece
  | .boundary, [] => []
  | .inside first .., [] => [.damage ⟨first, i, .truncated⟩]
  | place, b :: rest =>
    let (settled, next) := place.step i b.toNat
    settled ++ next.decode (i + 1) rest

end Utf8Place

/-- The characters and damaged places of a list of bytes. -/
def utf8Pieces (bytes : List UInt8) : List Utf8Piece :=
  Utf8Place.boundary.decode 0 bytes

/-- The character of a piece, or its damage. -/
def Utf8Piece.toExcept : Utf8Piece → Except Utf8Damage Char
  | .char c => .ok c
  | .damage d => .error d

/-- The character of a piece, U+FFFD for a damaged place. -/
def Utf8Piece.repaired : Utf8Piece → Char
  | .char c => c
  | .damage _ => '\ufffd'

/-- The text of a list of bytes, or the first damaged place. -/
def readUtf8 (bytes : List UInt8) : Except Utf8Damage String :=
  ((utf8Pieces bytes).mapM Utf8Piece.toExcept).map String.ofList

/-- The text of a list of bytes, with damaged places replaced. -/
def repairUtf8 (bytes : List UInt8) : String :=
  String.ofList ((utf8Pieces bytes).map Utf8Piece.repaired)

example : repairUtf8 [0xE2, 0x80, 0x61, 0xC3, 0xA9] = "\ufffdaé" := by cbv

example : readUtf8 [0x61, 0xE2, 0x80, 0x61] = .error ⟨1, 3, .continuation⟩ := by
  cbv

end SingleNode.Text
