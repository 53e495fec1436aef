/-
# The type of a plain scalar

A plain scalar is text unless it has the form of another type: a truth value,
the absent value, a merge key, a default value, a number or a time stamp.  The
forms are regular expressions (`otherTypes`).  Of the other types only whole
numbers occur in documents, in plain decimals (`integer?`).
-/
import Mathlib.Computability.RegularExpressions
import SingleNode.Proofs.Yaml.Flow

namespace SingleNode.Yaml.Reader

open RegularExpression (char star)

/-! ## Forms -/

def oneOf (cs : List Char) : RegularExpression Char :=
  cs.foldr (fun c r => char c + r) 0

def sequence (rs : List (RegularExpression Char)) : RegularExpression Char :=
  rs.foldr (· * ·) 1

def word (w : String) : RegularExpression Char :=
  sequence (w.toList.map char)

def anyWord (ws : List String) : RegularExpression Char :=
  ws.foldr (fun w r => word w + r) 0

/-- A form or nothing. -/
def maybe (r : RegularExpression Char) : RegularExpression Char := r + 1

/-- A form once or more often. -/
def many (r : RegularExpression Char) : RegularExpression Char := r * star r

def digits : List Char := "0123456789".toList

/-- What may stand among the digits of a number. -/
def digitLikes : List Char := "0123456789_".toList

def sign : RegularExpression Char := oneOf ['-', '+']

/-- A part of a number in base sixty that is not the first one. -/
def sexagesimalPart : RegularExpression Char :=
  sequence [char ':', maybe (oneOf "012345".toList), oneOf digits]

/-- The parts of a number in base sixty that follow the first one. -/
def sexagesimal : RegularExpression Char := many sexagesimalPart

def exponent : RegularExpression Char :=
  sequence [oneOf ['e', 'E'], sign, many (oneOf digits)]

def digitsOf (n : Nat) : RegularExpression Char :=
  sequence (List.replicate n (oneOf digits))

/-- One or two digits. -/
def short : RegularExpression Char :=
  sequence [oneOf digits, maybe (oneOf digits)]

/-- Whole numbers without a sign: binary, octal, decimal, hexadecimal and in
base sixty. -/
def integerForms : List (RegularExpression Char) :=
  [sequence [char '0', char 'b', many (oneOf "01_".toList)],
    sequence [char '0', many (oneOf "01234567_".toList)],
    char '0',
    sequence [oneOf "123456789".toList, star (oneOf digitLikes)],
    sequence [char '0', char 'x',
      many (oneOf "0123456789abcdefABCDEF_".toList)],
    sequence [oneOf "123456789".toList, star (oneOf digitLikes), sexagesimal]]

/-- Numbers with a point, which may have a sign, and infinities. -/
def realForms : List (RegularExpression Char) :=
  [sequence [oneOf digits, star (oneOf digitLikes), char '.',
    star (oneOf digitLikes),
      maybe exponent],
    sequence [oneOf digits, star (oneOf digitLikes), sexagesimal, char '.',
      star (oneOf digitLikes)],
    anyWord [".inf", ".Inf", ".INF"]]

/-- Numbers that start with a point, which have no sign, and the undefined
number. -/
def unsignedRealForms : List (RegularExpression Char) :=
  [sequence [char '.', oneOf digits, star (oneOf digitLikes), maybe exponent],
    anyWord [".nan", ".NaN", ".NAN"]]

/-- Blanks in a time stamp. -/
def stampBlanks : List Char := [' ', '\t']

def zone : RegularExpression Char :=
  sequence [star (oneOf stampBlanks),
    char 'Z' + sequence [sign, short, maybe (sequence [char ':', digitsOf 2])]]

/-- What stands between the day and the time of a time stamp. -/
def timeMark : RegularExpression Char :=
  oneOf ['T', 't'] + many (oneOf stampBlanks)

def secondFraction : RegularExpression Char :=
  sequence [char '.', star (oneOf digits)]

def timeOfDay : RegularExpression Char :=
  sequence [timeMark, short, char ':', digitsOf 2, char ':', digitsOf 2,
    maybe secondFraction, maybe zone]

/-- Days, and times on a day. -/
def stampForms : List (RegularExpression Char) :=
  [sequence [digitsOf 4, char '-', digitsOf 2, char '-', digitsOf 2],
    sequence [digitsOf 4, char '-', short, char '-', short, timeOfDay]]

/-- Truth values, the absent value, and marks with a meaning of their own. -/
def otherWords : List String :=
  ["yes", "Yes", "YES", "no", "No", "NO", "true", "True", "TRUE", "false",
    "False", "FALSE", "on",
    "On", "ON", "off", "Off", "OFF", "~", "null", "Null", "NULL", "", "<<", "=",
      "!", "&", "*"]

/-- The forms of the types other than text. -/
def otherTypes : List (RegularExpression Char) :=
  anyWord otherWords :: (integerForms ++ realForms).map
    (fun r => sequence [maybe sign, r]) ++
    unsignedRealForms ++ stampForms

/-- The number whose decimals are the given ones. -/
def natural? (cs : List Char) : Option Nat :=
  let n := Nat.ofDigitChars 10 cs 0
  if Nat.toDigits 10 n = cs then some n else none

/-- The whole number whose decimals are the given ones. -/
def integer? : List Char → Option Int
  | '-' :: cs => (natural? cs).map fun n => -Int.ofNat n
  | cs => (natural? cs).map Int.ofNat

/-- What a plain scalar stands for. Numbers other than whole ones in plain
decimals, truth values, the absent value and time stamps are not read. -/
def resolve (cs : List Char) : Option Node :=
  match integer? cs with
  | some n => some (.integer n)
  | none =>
    if otherTypes.any (·.rmatch cs) then none
      else some (.text (String.ofList cs))

/-! ## What has a form -/

theorem mem_char {c : Char} {x : List Char} : x ∈ (char c).matches' ↔ x = [c] :=
  Iff.rfl

theorem mem_oneOf {cs x : List Char} :
    x ∈ (oneOf cs).matches' ↔ ∃ c ∈ cs, x = [c] := by
  induction cs with
  | nil =>
    exact ⟨fun h => absurd h (Language.notMem_zero x),
      fun ⟨_, h, _⟩ => nomatch h⟩
  | cons c cs ih =>
    rw [oneOf, List.foldr_cons, RegularExpression.matches'_add,
      Language.mem_add, ← oneOf, ih, mem_char]
    simp

theorem mem_sequence_nil {x : List Char} :
    x ∈ (sequence []).matches' ↔ x = [] := Iff.rfl

theorem mem_sequence_cons {r : RegularExpression Char}
    {rs : List (RegularExpression Char)} {x : List Char} :
    x ∈ (sequence (r :: rs)).matches' ↔
      ∃ a ∈ r.matches', ∃ b ∈ (sequence rs).matches', a ++ b = x :=
        Language.mem_mul

theorem mem_chars {w x : List Char} :
    x ∈ (sequence (w.map char)).matches' ↔ x = w := by
  induction w generalizing x with
  | nil => exact mem_sequence_nil
  | cons c w ih =>
    rw [List.map_cons, mem_sequence_cons]
    constructor
    · rintro ⟨a, rfl, b, hb, rfl⟩
      rw [ih.mp hb]
      rfl
    · rintro rfl
      exact ⟨[c], rfl, w, ih.mpr rfl, rfl⟩

theorem mem_word {w : String} {x : List Char} :
    x ∈ (word w).matches' ↔ x = w.toList := mem_chars

theorem mem_anyWord {ws : List String} {x : List Char} :
    x ∈ (anyWord ws).matches' ↔ ∃ w ∈ ws, x = w.toList := by
  induction ws with
  | nil =>
    exact ⟨fun h => absurd h (Language.notMem_zero x),
      fun ⟨_, h, _⟩ => nomatch h⟩
  | cons w ws ih =>
    rw [anyWord, List.foldr_cons, RegularExpression.matches'_add,
      Language.mem_add, ← anyWord, ih, mem_word]
    simp

theorem mem_maybe {r : RegularExpression Char} {x : List Char} :
    x ∈ (maybe r).matches' ↔ x ∈ r.matches' ∨ x = [] := Iff.rfl

theorem mem_add {r q : RegularExpression Char} {x : List Char} :
    x ∈ (r + q).matches' ↔ x ∈ r.matches' ∨ x ∈ q.matches' := Iff.rfl

theorem mem_of_mem_star {cs x : List Char}
    (h : x ∈ (star (oneOf cs)).matches') :
    ∀ c ∈ x, c ∈ cs := by
  obtain ⟨words, rfl, hwords⟩ := Language.mem_kstar.mp h
  intro c hc
  obtain ⟨w, hw, hc⟩ := List.mem_flatten.mp hc
  obtain ⟨d, hd, rfl⟩ := mem_oneOf.mp (hwords w hw)
  obtain rfl := List.mem_singleton.mp hc
  exact hd

theorem exists_of_mem_many {cs x : List Char}
    (h : x ∈ (many (oneOf cs)).matches') :
    ∃ c ds, x = c :: ds ∧ ∀ d ∈ c :: ds, d ∈ cs := by
  obtain ⟨a, ha, b, hb, rfl⟩ := Language.mem_mul.mp h
  obtain ⟨c, hc, rfl⟩ := mem_oneOf.mp ha
  exact ⟨c, b, rfl, List.forall_mem_cons.mpr ⟨hc, mem_of_mem_star hb⟩⟩

end SingleNode.Yaml.Reader
