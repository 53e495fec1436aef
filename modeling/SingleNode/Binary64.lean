/-
# Binary64 numbers

A finite number of the binary64 format is a sign, a whole mantissa below 2⁵³ and
a power of two not below 2⁻¹⁰⁷⁴. Every operation computes the exact result in
whole numbers first and rounds it once, to the nearest representable number, a
tie going to the even mantissa.
-/

namespace SingleNode

/-- A number of the binary64 format; a finite one is `mantissa * 2 ^ exponent`
with its sign. -/
inductive Binary64
  | finite (negative : Bool) (mantissa : Nat) (exponent : Int)
  | infinite (negative : Bool)
  | notANumber
  deriving DecidableEq, Repr

/-- The quotient rounded to the nearest whole number, a tie to the even one. -/
def roundDiv (num den : Nat) : Nat :=
  let q := num / den
  let r := num % den
  if den < 2 * r then q + 1
  else if 2 * r = den then q + q % 2
  else q

namespace Binary64

/-- Zero without a minus sign. -/
def zero : Binary64 := .finite false 0 0

/-- The least exponent, that of the subnormal numbers. -/
def minExponent : Int := -1074

def maxExponent : Int := 971

/-- The whole numbers `(a, b)` with `a / b = num / den / 2 ^ e`. -/
def scale (num den : Nat) (e : Int) : Nat × Nat :=
  if 0 ≤ e then (num, den * Nat.pow 2 e.toNat)
    else (num * Nat.pow 2 (-e).toNat, den)

/-- The exponent at which the quotient has a mantissa of 53 bits, or the least
exponent. -/
def exponentFor (num den : Nat) : Int :=
  let guess : Int := (num.log2 : Int) - (den.log2 : Int) - 52
  let (a, b) := scale num den guess
  max minExponent (if a / b < Nat.pow 2 52 then guess - 1 else guess)

/-- The number nearest to a quotient, with the given sign. -/
def ofQuotient (negative : Bool) (num den : Nat) : Binary64 :=
  if num = 0 then .finite negative 0 0
  else
    let e := exponentFor num den
    let (a, b) := scale num den e
    let m := roundDiv a b
    let (m, e) := if m = Nat.pow 2 53 then (Nat.pow 2 52, e + 1) else (m, e)
    if maxExponent < e then .infinite negative else .finite negative m e

def ofInt (n : Int) : Binary64 :=
  if n < 0 then ofQuotient true n.natAbs 1 else ofQuotient false n.natAbs 1

/-- The number nearest to a whole number, unless that is infinite. -/
def ofInt? (n : Int) : Option Binary64 :=
  match ofInt n with
  | .infinite _ => none
  | x => some x

/-- The number nearest to `digits * 10 ^ exponent`. Exponents far outside the
range are answered without computing the power. -/
def ofDecimal (negative : Bool) (digits : Nat) (exponent : Int) : Binary64 :=
  if digits = 0 then .finite negative 0 0
  else if 400 < exponent then .infinite negative
  else if exponent + (digits.log2 : Int) < -1200 then .finite negative 0 0
  else if 0 ≤ exponent then ofQuotient negative
    (digits * Nat.pow 10 exponent.toNat) 1
  else ofQuotient negative digits (Nat.pow 10 (-exponent).toNat)

/-- The number nearest to a whole multiple of a power of two. -/
def ofScaled (negative : Bool) (n : Nat) (e : Int) : Binary64 :=
  let (a, b) := scale n 1 (-e)
  ofQuotient negative a b

/-- The whole number of units `2 ^ e` in a finite number, for an `e` not above
its exponent. -/
def units (negative : Bool) (mantissa : Nat) (exponent e : Int) : Int :=
  let n : Int := (mantissa * Nat.pow 2 (exponent - e).toNat : Nat)
  if negative then -n else n

/-- The difference. Two equal numbers differ by zero, with a minus sign only for
`-0 - 0`. -/
def sub : Binary64 → Binary64 → Binary64
  | .finite s m e, .finite t n f =>
    let low := min e f
    let d := units s m e low - units t n f low
    if d = 0 then .finite (s && !t && m = 0) 0 0 else ofScaled
      (d < 0) d.natAbs low
  | .notANumber, _ => .notANumber
  | _, .notANumber => .notANumber
  | .infinite s, .infinite t => if s = t then .notANumber else .infinite s
  | .infinite s, .finite .. => .infinite s
  | .finite .., .infinite t => .infinite (!t)

/-- The whole part of a finite number, cut toward zero. -/
def truncate? : Binary64 → Option Int
  | .finite s m e =>
    let (a, b) := scale m 1 (-e)
    let n : Int := (a / b : Nat)
    some (if s then -n else n)
  | _ => none

def isWhole : Binary64 → Bool
  | .finite _ m e =>
    let (a, b) := scale m 1 (-e)
    a % b = 0
  | _ => false

end Binary64

end SingleNode
