/-
# The texts that are integers

An integer is written as a numeral: a sign, if any, and decimal digits of any
scripts, of which two may have one underscore between them, with white space on
either side (`Numeral`).  The relation says nothing about how a numeral is read.
Reading a text gives the integer of which it is a numeral, and nothing if it is
a numeral of none (`readInteger?_eq_some_iff`), so a text is a numeral of at
most one integer.

The number of the digits is their value in base ten, the last digit having the
lowest weight.  Leading zeros do not change it, but they count among the digits,
of which there are at most 4300.
-/
import Mathlib.Data.List.Pairwise
import Mathlib.Data.Nat.Digits.Defs
import SingleNode.Proofs.Text.Trim
import SingleNode.Text.Integer

namespace SingleNode.Text

/-! ## Digits -/

/-- The character is the digit with the value, in one of the scripts. -/
def IsDigit (c : Char) (d : Nat) : Prop :=
  d ≤ 9 ∧ ∃ nought ∈ decimalZeros, c.toNat = nought + d

/-- The digits of no two scripts overlap. -/
theorem pairwise_decimalZeros : decimalZeros.Pairwise fun a b => a + 9 < b := by
  decide +kernel

theorem eq_of_mem_decimalZeros {a b n : Nat} (ha : a ∈ decimalZeros)
    (hb : b ∈ decimalZeros) (hna : a ≤ n ∧ n ≤ a + 9)
    (hnb : b ≤ n ∧ n ≤ b + 9) : a = b := by
  have apart : decimalZeros.Pairwise fun a b => a + 9 < b ∨ b + 9 < a :=
    pairwise_decimalZeros.imp .inl
  have sym : Std.Symm fun a b : Nat => a + 9 < b ∨ b + 9 < a :=
    ⟨fun _ _ => Or.symm⟩
  by_contra hne
  have hab := apart.forall ha hb hne
  omega

theorem digitValue?_eq_some_iff {c : Char} {d : Nat} :
    digitValue? c = some d ↔ IsDigit c d := by
  rw [digitValue?, Option.map_eq_some_iff]
  constructor
  · rintro ⟨nought, hf, rfl⟩
    have hz : nought ≤ c.toNat ∧ c.toNat ≤ nought + 9 := by
      simpa using List.find?_some hf
    exact ⟨by omega, nought, List.mem_of_find?_eq_some hf, by omega⟩
  · rintro ⟨hd, nought, hmem, hc⟩
    cases hf : decimalZeros.find? fun z => z ≤ c.toNat && c.toNat ≤ z + 9 with
    | none =>
      have hn := List.find?_eq_none.mp hf nought hmem
      rw [Bool.and_eq_true, decide_eq_true_iff, decide_eq_true_iff] at hn
      omega
    | some found =>
      have hfound : found ≤ c.toNat ∧ c.toNat ≤ found + 9 := by
        simpa using List.find?_some hf
      obtain rfl : found = nought :=
        eq_of_mem_decimalZeros (List.mem_of_find?_eq_some hf)
          hmem hfound (by omega)
      exact ⟨found, rfl, by omega⟩

/-- There are ASCII digits, and those of the other scripts come much later. -/
theorem eq_or_le_of_mem_decimalZeros :
    ∀ nought ∈ decimalZeros, nought = 0x30 ∨ 0x660 ≤ nought := by
  decide +kernel

theorem IsDigit.ne {c : Char} {d : Nat} (h : IsDigit c d) :
    c ≠ '_' ∧ c ≠ '-' ∧ c ≠ '+' := by
  obtain ⟨hd, nought, hmem, hc⟩ := h
  have hz := eq_or_le_of_mem_decimalZeros nought hmem
  refine ⟨?_, ?_, ?_⟩
  · rintro rfl
    change 0x5f = nought + d at hc
    omega
  · rintro rfl
    change 0x2d = nought + d at hc
    omega
  · rintro rfl
    change 0x2b = nought + d at hc
    omega

theorem IsDigit.not_isWhiteSpace {c : Char} {d : Nat} (h : IsDigit c d) :
    isWhiteSpace c = false := by
  have dark :
      ∀ nought ∈ decimalZeros, ∀ d ≤ 9,
      isWhiteSpace (Char.ofNat (nought + d)) = false := by
    decide +kernel
  obtain ⟨hd, nought, hmem, hc⟩ := h
  rw [← Char.ofNat_toNat c, hc]
  exact dark nought hmem d hd

/-- Digits with the values stand one after the other, with at most one
underscore between each two. -/
inductive Grouped : List Char → List Nat → Prop
  | last {c : Char} {d : Nat} : IsDigit c d → Grouped [c] [d]
  | next {c : Char} {d : Nat} {cs : List Char} {ds : List Nat} :
      IsDigit c d → Grouped cs ds → Grouped (c :: cs) (d :: ds)
  | apart {c : Char} {d : Nat} {cs : List Char} {ds : List Nat} :
      IsDigit c d → Grouped cs ds → Grouped (c :: '_' :: cs) (d :: ds)

theorem Grouped.head {cs : List Char} {ds : List Nat} (h : Grouped cs ds) :
    ∃ c d rest, cs = c :: rest ∧ IsDigit c d := by
  cases h with
  | last hc => exact ⟨_, _, _, rfl, hc⟩
  | next hc => exact ⟨_, _, _, rfl, hc⟩
  | apart hc => exact ⟨_, _, _, rfl, hc⟩

theorem Grouped.ne_nil {cs : List Char} {ds : List Nat} (h : Grouped cs ds) :
    cs ≠ [] := by
  obtain ⟨c, d, rest, rfl, -⟩ := h.head
  exact List.cons_ne_nil c rest

theorem Grouped.last? {cs : List Char} {ds : List Nat} (h : Grouped cs ds) :
    ∃ c d, cs.getLast? = some c ∧ IsDigit c d := by
  induction h with
  | last hc => exact ⟨_, _, rfl, hc⟩
  | next hc _ ih =>
    obtain ⟨c, d, hl, hd⟩ := ih
    refine ⟨c, d, ?_, hd⟩
    rw [List.getLast?_cons, hl]
    rfl
  | apart hc _ ih =>
    obtain ⟨c, d, hl, hd⟩ := ih
    refine ⟨c, d, ?_, hd⟩
    rw [List.getLast?_cons, List.getLast?_cons, hl]
    rfl

theorem groupedDigits?_eq_some_iff {cs : List Char} {ds : List Nat} :
    groupedDigits? digitValue? cs = some ds ↔ Grouped cs ds := by
  constructor
  · intro h
    fun_induction groupedDigits? digitValue? cs generalizing ds with
    | case1 => cases h
    | case2 c =>
      obtain ⟨d, hd, rfl⟩ := Option.map_eq_some_iff.mp h
      exact .last (digitValue?_eq_some_iff.mp hd)
    | case3 c rest ih =>
      obtain ⟨d, hd, h⟩ := Option.bind_eq_some_iff.mp h
      obtain ⟨ds', hds, h⟩ := Option.bind_eq_some_iff.mp h
      obtain rfl := Option.some.inj h
      exact .apart (digitValue?_eq_some_iff.mp hd) (ih hds)
    | case4 c rest _ _ ih =>
      obtain ⟨d, hd, h⟩ := Option.bind_eq_some_iff.mp h
      obtain ⟨ds', hds, h⟩ := Option.bind_eq_some_iff.mp h
      obtain rfl := Option.some.inj h
      exact .next (digitValue?_eq_some_iff.mp hd) (ih hds)
  · intro h
    induction h with
    | last hc => rw [groupedDigits?, digitValue?_eq_some_iff.mpr hc]; rfl
    | @next c d cs ds hc hcs ih =>
      -- What follows begins with a digit, so the clause about underscores does
      -- not apply.
      obtain ⟨c', d', rest, rfl, hc'⟩ := hcs.head
      rw [groupedDigits?, digitValue?_eq_some_iff.mpr hc, ih]
      · rfl
      · nofun
      · rintro _ ⟨⟩
        exact hc'.ne.1 rfl
    | apart hc _ ih =>
      rw [groupedDigits?, digitValue?_eq_some_iff.mpr hc, ih]; rfl

theorem ofDigits_eq (ds : List Nat) :
    ofDigits ds = Nat.ofDigits 10 ds.reverse := by
  induction ds using List.reverseRecOn with
  | nil => rfl
  | append_singleton ds d ih =>
    rw [ofDigits, List.foldl_append, ← ofDigits, ih, List.reverse_append,
      List.reverse_singleton,
      List.singleton_append, Nat.ofDigits_cons, List.foldl_cons, List.foldl_nil]
    exact Nat.add_comm _ _

/-! ## Numerals -/

/-- A sign, or none, and whether it makes a number negative. -/
inductive Sign : List Char → Bool → Prop
  | none : Sign [] false
  | plus : Sign ['+'] false
  | minus : Sign ['-'] true

/-- The text is the integer written out. -/
inductive Numeral (s : String) : Int → Prop
  | intro {lead sign body trail : List Char} {negative : Bool} {ds : List Nat} :
      (∀ c ∈ lead, isWhiteSpace c = true) →
        (∀ c ∈ trail, isWhiteSpace c = true) → Sign sign negative →
      Grouped body ds → ds.length ≤ 4300 →
      s.toList = lead ++ (sign ++ body) ++ trail →
      Numeral s (signed negative (Nat.ofDigits 10 ds.reverse))

theorem splitSign_append {sign body : List Char} {negative : Bool}
    {ds : List Nat} (hs : Sign sign negative) (hb : Grouped body ds) :
    splitSign (sign ++ body) = (negative, body) := by
  cases hs with
  | none =>
    obtain ⟨c, d, rest, rfl, hc⟩ := hb.head
    obtain ⟨-, hminus, hplus⟩ := hc.ne
    rw [List.nil_append, splitSign]
    · rintro _ ⟨⟩
      exact hminus rfl
    · rintro _ ⟨⟩
      exact hplus rfl
  | plus => rfl
  | minus => rfl

theorem exists_sign_of_splitSign {cs body : List Char} {negative : Bool}
    (h : splitSign cs = (negative, body)) :
    ∃ sign, Sign sign negative ∧ cs = sign ++ body := by
  rw [splitSign.eq_def] at h
  split at h
  · obtain ⟨rfl, rfl⟩ := Prod.mk.inj h
    exact ⟨_, .minus, rfl⟩
  · obtain ⟨rfl, rfl⟩ := Prod.mk.inj h
    exact ⟨_, .plus, rfl⟩
  · obtain ⟨rfl, rfl⟩ := Prod.mk.inj h
    exact ⟨_, .none, rfl⟩

theorem Grouped.isTrimmed {cs : List Char} {ds : List Nat} (h : Grouped cs ds) :
    IsTrimmed isWhiteSpace cs where
  head c hc := by
    obtain ⟨c', d, rest, rfl, hd⟩ := h.head
    obtain rfl := Option.some.inj hc
    exact hd.not_isWhiteSpace
  last c hc := by
    obtain ⟨c', d, hl, hd⟩ := h.last?
    obtain rfl := Option.some.inj (hl.symm.trans hc)
    exact hd.not_isWhiteSpace

theorem Sign.isTrimmed_append {sign body : List Char} {negative : Bool}
    (hs : Sign sign negative) (hne : body ≠ [])
    (hb : IsTrimmed isWhiteSpace body) :
    IsTrimmed isWhiteSpace (sign ++ body) where
  head c hc := by
    cases hs with
    | none => exact hb.head c hc
    | plus =>
      obtain rfl := Option.some.inj hc
      rfl
    | minus =>
      obtain rfl := Option.some.inj hc
      rfl
  last c hc := by
    rw [List.getLast?_append_of_ne_nil sign hne] at hc
    exact hb.last c hc

/-- What is read from a text is the integer of which it is a numeral. -/
theorem readInteger?_eq_some_iff {s : String} {n : Int} :
    readInteger? s = some n ↔ Numeral s n := by
  constructor
  · intro h
    cases hs : splitSign (trimList isWhiteSpace s.toList) with
    | mk negative body =>
      cases hg : groupedDigits? digitValue? body with
      | none => simp [readInteger?, hs, hg] at h
      | some ds =>
        have hn : ds.length ≤ 4300 ∧ signed negative (ofDigits ds) = n := by
          simpa [readInteger?, hs, hg, maxDigits] using h
        obtain ⟨sign, hsign, hcore⟩ := exists_sign_of_splitSign hs
        obtain ⟨lead, trail, hl, ht, hcs⟩ :=
          exists_trimList_append isWhiteSpace s.toList
        rw [hcore] at hcs
        rw [← hn.2, ofDigits_eq]
        exact .intro hl ht hsign (groupedDigits?_eq_some_iff.mp hg) hn.1 hcs
  · rintro ⟨hl, ht, hsign, hbody, hlen, hcs⟩
    have htrim :=
      trimList_append hl ht
      (hsign.isTrimmed_append hbody.ne_nil hbody.isTrimmed)
    simp only [readInteger?, hcs, htrim, splitSign_append hsign hbody,
      groupedDigits?_eq_some_iff.mpr hbody, maxDigits, if_pos hlen, ofDigits_eq]

end SingleNode.Text
