/-
# Decimal text of binary64 numbers

Two written forms. `hundredths` has exactly two places and rounds the exact
binary value, a tie going to the even digit. `shortest` has the fewest digits
that read back as the same number, and of those the nearest to it; it is
positional from 10⁻⁴ up to 10¹⁶ and has an exponent elsewhere.
-/
import SingleNode.Binary64

namespace SingleNode

def decimalDigits (n : Nat) : List Char :=
  Nat.toDigits 10 n

namespace Binary64

def signText (negative : Bool) : List Char :=
  if negative then ['-'] else []

/-- The number with two places. -/
def hundredths : Binary64 → String
  | .notANumber => "nan"
  | .infinite s => String.ofList (signText s ++ "inf".toList)
  | .finite s m e =>
    let (a, b) := scale (100 * m) 1 (-e)
    let n := roundDiv a b
    String.ofList (signText s ++ decimalDigits (n / 100) ++
      '.' :: (decimalDigits (n % 100)).leftpad 2 '0')

/-- A decimal number `digits * 10 ^ exponent`. -/
structure Decimal where
  digits : Nat
  exponent : Int
  deriving DecidableEq, Repr

/-- The power of ten that the quotient reaches but does not exceed tenfold. -/
def decimalMagnitude (num den : Nat) : Int :=
  let k : Int := (decimalDigits num).length - (decimalDigits den).length
  let (a, b) :=
    if 0 ≤ k then (num, den * Nat.pow 10 k.toNat)
    else (num * Nat.pow 10 (-k).toNat, den)
  if b ≤ a then k else k - 1

/-- Of the two neighbours of the quotient on the grid of `count` digits, the
nearest that reads back as `x`, if any does. -/
def onGrid (x : Binary64) (num den : Nat) (negative : Bool) (count : Nat) :
    Option Decimal :=
  let places : Int := (count : Int) - 1 - decimalMagnitude num den
  let (a, b) := if 0 ≤ places then (num * Nat.pow 10 places.toNat, den)
    else (num, den * Nat.pow 10 (-places).toNat)
  let low := a / b
  let readsBack (d : Nat) : Bool := ofDecimal negative d (-places) = x
  let near := roundDiv a b
  let far := if near = low then low + 1 else low
  if readsBack near then some ⟨near, -places⟩
  else if readsBack far then some ⟨far, -places⟩
  else none

/-- The decimal number with the fewest digits that reads back as the given
finite number. -/
def shortestDecimal (negative : Bool) (mantissa : Nat)
    (exponent : Int) : Decimal :=
  let (a, b) := scale mantissa 1 (-exponent)
  let x : Binary64 := .finite negative mantissa exponent
  ((List.range 17).findSome? fun i => onGrid x a b negative (i + 1)).getD ⟨0, 0⟩

/-- Decimal digits without the zeros at their end. -/
def significant (n : Nat) : List Char :=
  ((decimalDigits n).reverse.dropWhile (· == '0')).reverse

/-- The exponent part: a sign and at least two digits. -/
def exponentText (e : Int) : List Char :=
  'e' :: (if e < 0 then '-' else '+') :: (decimalDigits e.natAbs).leftpad 2 '0'

/-- Writes digits whose point stands after the first `point` of them. -/
def layout (ds : List Char) (point : Int) : List Char :=
  if -4 < point && point ≤ 16 then
    if point ≤ 0 then '0' :: '.' :: List.replicate (-point).toNat '0' ++ ds
    else
      let n := point.toNat
      let fraction := ds.drop n
      (ds.take n).rightpad n '0' ++ '.' ::
        (if fraction.isEmpty then ['0'] else fraction)
  else
    match ds with
    | [] => []
    | d :: rest =>
      d :: (if rest.isEmpty then [] else '.' :: rest) ++
        exponentText (point - 1)

/-- The shortest text that reads back as the number. -/
def shortest : Binary64 → String
  | .notANumber => "nan"
  | .infinite s => String.ofList (signText s ++ "inf".toList)
  | .finite s m e =>
    if m = 0 then String.ofList (signText s ++ "0.0".toList)
    else
      let d := shortestDecimal s m e
      let point : Int := (decimalDigits d.digits).length + d.exponent
      String.ofList (signText s ++ layout (significant d.digits) point)

example : (ofDecimal false 995 (-3)).hundredths = "0.99" := by decide +kernel

example : (ofDecimal false 1 300).shortest = "1e+300" := by decide +kernel

end Binary64

end SingleNode
