/-
# Digits in ASCII

An amount is a number in ASCII digits without a leading zero, which may have
single underscores between them (`Amount`).  It is read in two steps.
Underscores are dropped if each stands between two other characters (`Spaced`),
and else all of them are kept.  Then digits are read, with a minus sign in front
or none, and any underscore that is left spoils them
(`readPlain_dropUnderscores_eq_ok_iff`).
-/
import SingleNode.Proofs.Text.Numeral

namespace SingleNode.Text

/-- A number is written in ASCII digits without a leading zero, of which there
are at most 4300. -/
inductive Amount : List Char → Nat → Prop
  | nought : Amount ['0'] 0
  | counted {cs : List Char} {ds : List Nat} :
      Grouped cs ds → (∀ c ∈ cs, c.toNat < 128) → cs.head? ≠ some '0' →
        ds.length ≤ 4300 →
      Amount cs (Nat.ofDigits 10 ds.reverse)

variable {cs : List Char} {ds : List Nat}

/-! ## Digits -/

theorem asciiDigit?_eq_some_iff {c : Char} {d : Nat} :
    asciiDigit? c = some d ↔ IsDigit c d ∧ c.toNat < 128 := by
  rw [asciiDigit?]
  constructor
  · intro h
    split at h
    next hc =>
      rw [Bool.and_eq_true, decide_eq_true_iff, decide_eq_true_iff] at hc
      obtain rfl := Option.some.inj h
      exact ⟨⟨by omega, 0x30, List.mem_cons_self, by omega⟩, by omega⟩
    · cases h
  · rintro ⟨⟨hd, nought, hmem, hc⟩, hlt⟩
    have hz := eq_or_le_of_mem_decimalZeros nought hmem
    rw [if_pos]
    · exact congrArg some (by omega)
    · rw [Bool.and_eq_true, decide_eq_true_iff, decide_eq_true_iff]
      omega

def StartsWithDigit (cs : List Char) : Prop :=
  ∃ c rest, cs = c :: rest ∧ (asciiDigit? c).isSome = true

theorem StartsWithDigit.append (h : StartsWithDigit cs) (rest : List Char) :
    StartsWithDigit (cs ++ rest) := by
  obtain ⟨c, more, rfl, hd⟩ := h
  exact ⟨c, more ++ rest, rfl, hd⟩

theorem StartsWithDigit.head?_ne {c : Char} (h : StartsWithDigit cs)
    (hc : asciiDigit? c = none) :
    cs.head? ≠ some c := by
  obtain ⟨d, rest, rfl, hd⟩ := h
  intro heq
  obtain rfl := Option.some.inj heq
  rw [hc] at hd
  cases hd

/-- The digits of a text, if there is nothing else in it. -/
def digits? (cs : List Char) : Option (List Nat) := cs.mapM asciiDigit?

theorem digits?_cons (c : Char) (cs : List Char) :
    digits? (c :: cs) = (asciiDigit? c).bind fun d =>
      (digits? cs).map (d :: ·) := by
  rw [digits?, List.mapM_cons, ← digits?]
  cases asciiDigit? c with
  | none => rfl
  | some d => cases digits? cs <;> rfl

theorem digits?_cons_eq_some_iff {c : Char} :
    digits? (c :: cs) = some ds ↔
      ∃ d rest, asciiDigit? c = some d ∧ digits? cs = some rest ∧
        ds = d :: rest := by
  rw [digits?_cons, Option.bind_eq_some_iff]
  constructor
  · rintro ⟨d, hd, h⟩
    obtain ⟨rest, hrest, rfl⟩ := Option.map_eq_some_iff.mp h
    exact ⟨d, rest, hd, hrest, rfl⟩
  · rintro ⟨d, rest, hd, hrest, rfl⟩
    exact ⟨d, hd, by rw [hrest]; rfl⟩

theorem not_mem_of_digits? {c : Char} (hc : asciiDigit? c = none)
    (h : digits? cs = some ds) : c ∉ cs := by
  induction cs generalizing ds with
  | nil => exact List.not_mem_nil
  | cons first more ih =>
    obtain ⟨d, rest, hd, hrest, -⟩ := digits?_cons_eq_some_iff.mp h
    rintro hmem
    rcases List.mem_cons.mp hmem with rfl | hmem
    · cases hc.symm.trans hd
    · exact ih hrest hmem

/-! ## Underscores -/

/-- Characters that are no underscores, with at most one underscore between each
two. -/
inductive Spaced : List Char → Prop
  | last {c : Char} : c ≠ '_' → Spaced [c]
  | next {c : Char} {cs : List Char} : c ≠ '_' → Spaced cs → Spaced (c :: cs)
  | apart {c : Char} {cs : List Char} : c ≠ '_' → Spaced cs →
      Spaced (c :: '_' :: cs)

theorem hasPair_cons {c : Char} (h : c ≠ '_') (cs : List Char) :
    hasPair '_' (c :: cs) = hasPair '_' cs := by
  cases cs with
  | nil => rfl
  | cons d rest =>
    rw [hasPair, decide_eq_false h, Bool.false_and, Bool.false_or]

theorem Spaced.head (h : Spaced cs) : ∃ c rest, cs = c :: rest ∧ c ≠ '_' := by
  cases h with
  | last hc => exact ⟨_, _, rfl, hc⟩
  | next hc => exact ⟨_, _, rfl, hc⟩
  | apart hc => exact ⟨_, _, rfl, hc⟩

theorem Spaced.getLast?_ne (h : Spaced cs) : cs.getLast? ≠ some '_' := by
  induction h with
  | last hc => exact fun heq => hc (Option.some.inj heq)
  | next _ hs ih =>
    obtain ⟨d, rest, rfl, -⟩ := hs.head
    rwa [List.getLast?_cons_cons]
  | apart _ hs ih =>
    obtain ⟨d, rest, rfl, -⟩ := hs.head
    rwa [List.getLast?_cons_cons, List.getLast?_cons_cons]

theorem Spaced.hasPair_eq (h : Spaced cs) : hasPair '_' cs = false := by
  induction h with
  | last => rfl
  | next hc _ ih => rw [hasPair_cons hc, ih]
  | apart hc hs ih =>
    obtain ⟨d, rest, rfl, hd⟩ := hs.head
    rw [hasPair_cons hc, hasPair, decide_eq_false hd, Bool.and_false,
      Bool.false_or, ih]

/-- Underscores are spaced if none is at an end and no two stand side by
side. -/
theorem spaced_of_hasPair :
    ∀ {cs : List Char}, cs ≠ [] → cs.head? ≠ some '_' → cs.getLast? ≠ some '_' →
    hasPair '_' cs = false → Spaced cs
  | [], hne, _, _, _ => absurd rfl hne
  | [_], _, hhead, _, _ => .last fun heq => hhead (congrArg some heq)
  | c :: d :: rest, _, hhead, hlast, hpair => by
    have hc : c ≠ '_' := fun heq => hhead (congrArg some heq)
    rw [List.getLast?_cons_cons] at hlast
    rw [hasPair_cons hc] at hpair
    by_cases hd : d = '_'
    · obtain rfl := hd
      cases rest with
      | nil => exact absurd rfl hlast
      | cons e more =>
        rw [hasPair, Bool.or_eq_false_iff] at hpair
        have he : (e :: more).head? ≠ some '_' := by
          intro heq
          obtain rfl := Option.some.inj heq
          cases hpair.1
        rw [List.getLast?_cons_cons] at hlast
        exact .apart hc
          (spaced_of_hasPair (List.cons_ne_nil e more) he hlast hpair.2)
    · have hd' : (d :: rest).head? ≠ some '_' :=
        fun heq => hd (Option.some.inj heq)
      exact .next hc
        (spaced_of_hasPair (List.cons_ne_nil d rest) hd' hlast hpair)

theorem mem_of_hasPair (h : hasPair '_' cs = true) : '_' ∈ cs := by
  induction cs with
  | nil => cases h
  | cons c rest ih =>
    cases rest with
    | nil => cases h
    | cons d more =>
      rw [hasPair, Bool.or_eq_true, Bool.and_eq_true, decide_eq_true_iff,
        decide_eq_true_iff] at h
      rcases h with ⟨rfl, -⟩ | h
      · exact List.mem_cons_self
      · exact List.mem_cons_of_mem c (ih h)

theorem Spaced.dropUnderscores_eq (h : Spaced cs) :
    dropUnderscores cs = cs.filter (· != '_') := by
  obtain ⟨c, rest, rfl, hc⟩ := h.head
  rw [dropUnderscores, if_neg]
  simp [hc, h.getLast?_ne, h.hasPair_eq]

theorem dropUnderscores_of_not_spaced (hne : cs ≠ []) (h : ¬Spaced cs) :
    dropUnderscores cs = cs ∧ '_' ∈ cs := by
  by_cases hhead : cs.head? = some '_'
  · exact ⟨by rw [dropUnderscores, if_pos (by simp [hhead])],
      List.mem_of_head? hhead⟩
  by_cases hlast : cs.getLast? = some '_'
  · exact ⟨by rw [dropUnderscores, if_pos (by simp [hlast])],
      List.mem_of_getLast? hlast⟩
  have hpair : hasPair '_' cs = true := by
    by_contra hn
    exact h (spaced_of_hasPair hne hhead hlast (Bool.eq_false_iff.mpr hn))
  exact ⟨by rw [dropUnderscores, if_pos (by simp [hpair])],
    mem_of_hasPair hpair⟩

theorem filter_cons_of_ne {c : Char} (h : c ≠ '_') (rest : List Char) :
    (c :: rest).filter (· != '_') = c :: rest.filter (· != '_') :=
  List.filter_cons_of_pos (bne_iff_ne.mpr h)

theorem filter_cons_underscore (rest : List Char) :
    ('_' :: rest).filter (· != '_') = rest.filter (· != '_') := by
  refine List.filter_cons_of_neg ?_
  rw [bne_self_eq_false]
  exact Bool.false_ne_true

theorem Grouped.spaced (h : Grouped cs ds) : Spaced cs := by
  induction h with
  | last hd => exact .last hd.ne.1
  | next hd _ ih => exact .next hd.ne.1 ih
  | apart hd _ ih => exact .apart hd.ne.1 ih

theorem Grouped.digits?_filter (h : Grouped cs ds)
    (ha : ∀ c ∈ cs, c.toNat < 128) :
    digits? (cs.filter (· != '_')) = some ds := by
  induction h with
  | last hd =>
    obtain ⟨hlt, -⟩ := List.forall_mem_cons.mp ha
    rw [filter_cons_of_ne hd.ne.1, digits?_cons_eq_some_iff]
    exact ⟨_, [], asciiDigit?_eq_some_iff.mpr ⟨hd, hlt⟩, rfl, rfl⟩
  | next hd _ ih =>
    obtain ⟨hlt, ha⟩ := List.forall_mem_cons.mp ha
    rw [filter_cons_of_ne hd.ne.1, digits?_cons_eq_some_iff]
    exact ⟨_, _, asciiDigit?_eq_some_iff.mpr ⟨hd, hlt⟩, ih ha, rfl⟩
  | apart hd _ ih =>
    obtain ⟨hlt, ha⟩ := List.forall_mem_cons.mp ha
    rw [filter_cons_of_ne hd.ne.1, filter_cons_underscore,
      digits?_cons_eq_some_iff]
    exact ⟨_, _, asciiDigit?_eq_some_iff.mpr ⟨hd, hlt⟩,
      ih (List.forall_mem_cons.mp ha).2, rfl⟩

theorem grouped_of_spaced (h : Spaced cs)
    (hds : digits? (cs.filter (· != '_')) = some ds) :
    Grouped cs ds ∧ ∀ c ∈ cs, c.toNat < 128 := by
  induction h generalizing ds with
  | last hc =>
    rw [filter_cons_of_ne hc] at hds
    obtain ⟨d, _, hd, hrest, rfl⟩ := digits?_cons_eq_some_iff.mp hds
    obtain rfl := Option.some.inj hrest
    obtain ⟨hdigit, hlt⟩ := asciiDigit?_eq_some_iff.mp hd
    exact ⟨.last hdigit, List.forall_mem_singleton.mpr hlt⟩
  | next hc _ ih =>
    rw [filter_cons_of_ne hc] at hds
    obtain ⟨d, rest, hd, hrest, rfl⟩ := digits?_cons_eq_some_iff.mp hds
    obtain ⟨hdigit, hlt⟩ := asciiDigit?_eq_some_iff.mp hd
    obtain ⟨hg, ha⟩ := ih hrest
    exact ⟨.next hdigit hg, List.forall_mem_cons.mpr ⟨hlt, ha⟩⟩
  | apart hc _ ih =>
    rw [filter_cons_of_ne hc, filter_cons_underscore] at hds
    obtain ⟨d, rest, hd, hrest, rfl⟩ := digits?_cons_eq_some_iff.mp hds
    obtain ⟨hdigit, hlt⟩ := asciiDigit?_eq_some_iff.mp hd
    obtain ⟨hg, ha⟩ := ih hrest
    have hunder : '_'.toNat < 128 := by decide
    exact ⟨.apart hdigit hg,
      List.forall_mem_cons.mpr ⟨hlt, List.forall_mem_cons.mpr ⟨hunder, ha⟩⟩⟩

/-! ## Plain amounts -/

/-- An amount without underscores. -/
inductive Plain : List Char → Nat → Prop
  | nought : Plain ['0'] 0
  | digits {cs : List Char} {ds : List Nat} :
      digits? cs = some ds → cs ≠ [] → cs.head? ≠ some '0' → ds.length ≤ 4300 →
      Plain cs (Nat.ofDigits 10 ds.reverse)

theorem not_mem_of_plain {c : Char} {n : Nat} (hc : asciiDigit? c = none)
    (h : Plain cs n) : c ∉ cs := by
  cases h with
  | nought =>
    intro hmem
    obtain rfl := List.mem_singleton.mp hmem
    cases hc
  | digits h => exact not_mem_of_digits? hc h

theorem not_plain_nil {n : Nat} : ¬Plain [] n := by
  intro h
  cases h with
  | digits _ hne => exact hne rfl

theorem amount_iff {n : Nat} :
    Amount cs n ↔ Spaced cs ∧ Plain (cs.filter (· != '_')) n := by
  constructor
  · intro h
    cases h with
    | nought => exact ⟨.last (by decide), .nought⟩
    | counted hg ha hzero hlen =>
      have hdigits := hg.digits?_filter ha
      refine ⟨hg.spaced, ?_⟩
      obtain ⟨c, d, rest, rfl, hd⟩ := hg.head
      rw [filter_cons_of_ne hd.ne.1] at hdigits ⊢
      exact .digits hdigits (List.cons_ne_nil c _) hzero hlen
  · rintro ⟨hs, hp⟩
    obtain ⟨c, rest, rfl, hc⟩ := hs.head
    generalize hf : (c :: rest).filter (· != '_') = body at hp
    rw [filter_cons_of_ne hc] at hf
    cases hp with
    | nought =>
      obtain ⟨rfl, hnil⟩ := List.cons.inj hf
      have hds : digits? (('0' :: rest).filter (· != '_')) = some [0] := by
        rw [filter_cons_of_ne hc, hnil]
        rfl
      -- One digit in groups is that digit and nothing else.
      cases (grouped_of_spaced hs hds).1 with
      | last => exact .nought
      | next _ hg => cases hg
      | apart _ hg => cases hg
    | digits h _ hzero hlen =>
      rw [← hf] at hzero
      obtain ⟨hg, ha⟩ :=
        grouped_of_spaced hs (by rw [filter_cons_of_ne hc, hf]; exact h)
      exact .counted hg ha hzero hlen

theorem Amount.not_mem {c : Char} {n : Nat} (h : Amount cs n)
    (hc : asciiDigit? c = none) (hu : c ≠ '_') :
    c ∉ cs := by
  intro hmem
  refine not_mem_of_plain hc (amount_iff.mp h).2 ?_
  exact List.mem_filter.mpr ⟨hmem, bne_iff_ne.mpr hu⟩

theorem Plain.amount {n : Nat} (h : Plain cs n) : Amount cs n := by
  have hu : '_' ∉ cs := not_mem_of_plain rfl h
  have hne : cs ≠ [] := by
    rintro rfl
    exact not_plain_nil h
  have hs : Spaced cs := by
    by_contra hn
    exact hu (dropUnderscores_of_not_spaced hne hn).2
  have hself : cs.filter (· != '_') = cs := by
    rw [List.filter_eq_self]
    intro c hc
    rw [bne_iff_ne]
    rintro rfl
    exact hu hc
  exact amount_iff.mpr ⟨hs, by rwa [hself]⟩

theorem Amount.startsWithDigit {n : Nat} (h : Amount cs n) :
    StartsWithDigit cs := by
  cases h with
  | nought => exact ⟨'0', [], rfl, rfl⟩
  | counted hg ha =>
    obtain ⟨c, d, rest, rfl, hd⟩ := hg.head
    refine ⟨c, rest, rfl, ?_⟩
    rw [asciiDigit?_eq_some_iff.mpr ⟨hd, ha c List.mem_cons_self⟩]
    rfl

/-- Reads digits without a leading zero. -/
def readAmount (negative : Bool) : List Char → Except IntegerProblem Int
  | '0' :: rest => if rest.isEmpty then .ok 0 else .error .malformed
  | cs =>
    if maxDigits <
      (cs.takeWhile fun c =>
      (asciiDigit? c).isSome).length then .error .oversized
    else
      match digits? cs with
      | some (d :: ds) => .ok (signed negative (ofDigits (d :: ds)))
      | _ => .error .malformed

theorem readPlain_minus (cs : List Char) :
    readPlain ('-' :: cs) = readAmount true cs := by
  rw [readAmount.eq_def]
  split
  · rfl
  next h => exact readPlain.eq_2 cs h

theorem readPlain_of_ne (h : cs.head? ≠ some '-') :
    readPlain cs = readAmount false cs := by
  have hne (rest : List Char) : cs = '-' :: rest → False := by
    rintro rfl
    exact h rfl
  rw [readAmount.eq_def]
  split
  · rfl
  next hzero => exact readPlain.eq_4 cs hne hzero

theorem length_takeWhile_of_digits? (h : digits? cs = some ds) :
    (cs.takeWhile fun c => (asciiDigit? c).isSome).length = ds.length := by
  induction cs generalizing ds with
  | nil =>
    obtain rfl := Option.some.inj h
    rfl
  | cons c rest ih =>
    obtain ⟨d, ds, hd, hrest, rfl⟩ := digits?_cons_eq_some_iff.mp h
    rw [List.takeWhile_cons_of_pos (by rw [hd]; rfl), List.length_cons,
      ih hrest, List.length_cons]

theorem signed_zero (negative : Bool) : signed negative (0 : Nat) = 0 := by
  cases negative <;> rfl

theorem readAmount_of_head {negative : Bool} (h : cs.head? ≠ some '0') :
    readAmount negative cs =
      if maxDigits <
        (cs.takeWhile fun c =>
        (asciiDigit? c).isSome).length then .error .oversized
      else
        match digits? cs with
        | some (d :: ds) => .ok (signed negative (ofDigits (d :: ds)))
        | _ => .error .malformed := by
  rw [readAmount.eq_def]
  split
  · exact absurd rfl h
  · rfl

theorem Plain.readAmount_eq {n : Nat} (h : Plain cs n) (negative : Bool) :
    readAmount negative cs = .ok (signed negative n) := by
  cases h with
  | nought => exact congrArg _ (signed_zero negative).symm
  | @digits _ ds hds hne hzero hlen =>
    have hcount := length_takeWhile_of_digits? hds
    rw [readAmount_of_head hzero, hcount, maxDigits,
      if_neg (Nat.not_lt.mpr hlen), hds]
    cases ds with
    | nil =>
      obtain ⟨c, rest, rfl⟩ := List.exists_cons_of_ne_nil hne
      obtain ⟨_, _, -, -, heq⟩ := digits?_cons_eq_some_iff.mp hds
      cases heq
    | cons d ds => rw [← ofDigits_eq]

theorem exists_plain_of_readAmount {negative : Bool} {n : Int}
    (h : readAmount negative cs = .ok n) :
    ∃ m, Plain cs m ∧ signed negative m = n := by
  by_cases hzero : cs.head? = some '0'
  · obtain ⟨rest, rfl⟩ := List.head?_eq_some_iff.mp hzero
    cases rest with
    | nil => exact ⟨0, .nought, (signed_zero negative).trans (Except.ok.inj h)⟩
    | cons c more => cases h
  · rw [readAmount_of_head hzero] at h
    split at h
    · cases h
    next hlen =>
      split at h
      next d ds hds =>
        rw [length_takeWhile_of_digits? hds, maxDigits] at hlen
        refine ⟨_, .digits hds ?_ hzero (Nat.le_of_not_lt hlen), ?_⟩
        · rintro rfl
          cases hds
        · rw [← Except.ok.inj h, ofDigits_eq]
      · cases h

theorem readPlain_eq_ok_iff {n : Int} : readPlain cs = .ok n ↔
    (∃ m, Plain cs m ∧ signed false m = n) ∨
      ∃ body m, cs = '-' :: body ∧ Plain body m ∧ signed true m = n := by
  constructor
  · intro h
    by_cases hhead : cs.head? = some '-'
    · obtain ⟨body, rfl⟩ := List.head?_eq_some_iff.mp hhead
      rw [readPlain_minus] at h
      obtain ⟨m, hp, hn⟩ := exists_plain_of_readAmount h
      exact .inr ⟨body, m, rfl, hp, hn⟩
    · rw [readPlain_of_ne hhead] at h
      exact .inl (exists_plain_of_readAmount h)
  · rintro (⟨m, hp, rfl⟩ | ⟨body, m, rfl, hp, rfl⟩)
    · have hhead : cs.head? ≠ some '-' :=
        fun heq => not_mem_of_plain rfl hp (List.mem_of_head? heq)
      rw [readPlain_of_ne hhead, hp.readAmount_eq]
    · rw [readPlain_minus, hp.readAmount_eq]

/-- A sign and an amount, with its underscores. -/
inductive Reduced : List Char → Int → Prop
  | plain {cs : List Char} {n : Nat} : Amount cs n → Reduced cs (signed false n)
  | minus {gap cs : List Char} {n : Nat} :
      gap = [] ∨ gap = ['_'] → Amount cs n →
      Reduced ('-' :: (gap ++ cs)) (signed true n)

theorem Reduced.of_spaced {n : Int} (hs : Spaced cs)
    (h : readPlain (cs.filter (· != '_')) = .ok n) :
    Reduced cs n := by
  rcases readPlain_eq_ok_iff.mp h with ⟨m, hp, rfl⟩ | ⟨body, m, hf, hp, rfl⟩
  · exact .plain (amount_iff.mpr ⟨hs, hp⟩)
  · cases hs with
    | last hc =>
      rw [filter_cons_of_ne hc] at hf
      obtain ⟨-, rfl⟩ := List.cons.inj hf
      exact absurd hp not_plain_nil
    | next hc hs =>
      rw [filter_cons_of_ne hc] at hf
      obtain ⟨rfl, rfl⟩ := List.cons.inj hf
      exact .minus (.inl rfl) (amount_iff.mpr ⟨hs, hp⟩)
    | apart hc hs =>
      rw [filter_cons_of_ne hc, filter_cons_underscore] at hf
      obtain ⟨rfl, rfl⟩ := List.cons.inj hf
      exact .minus (.inr rfl) (amount_iff.mpr ⟨hs, hp⟩)

theorem Reduced.spaced {n : Int} (h : Reduced cs n) :
    Spaced cs ∧ readPlain (cs.filter (· != '_')) = .ok n := by
  have hne : '-' ≠ '_' := by decide
  cases h with
  | plain ha =>
    obtain ⟨hs, hp⟩ := amount_iff.mp ha
    exact ⟨hs, readPlain_eq_ok_iff.mpr (.inl ⟨_, hp, rfl⟩)⟩
  | minus hgap ha =>
    obtain ⟨hs, hp⟩ := amount_iff.mp ha
    rcases hgap with rfl | rfl
    · refine ⟨.next hne hs, ?_⟩
      rw [List.nil_append, filter_cons_of_ne hne]
      exact readPlain_eq_ok_iff.mpr (.inr ⟨_, _, rfl, hp, rfl⟩)
    · refine ⟨.apart hne hs, ?_⟩
      rw [List.singleton_append, filter_cons_of_ne hne, filter_cons_underscore]
      exact readPlain_eq_ok_iff.mpr (.inr ⟨_, _, rfl, hp, rfl⟩)

/-- A sign and an amount are read once the underscores are dropped, and nothing
else is. -/
theorem readPlain_dropUnderscores_eq_ok_iff {n : Int} :
    readPlain (dropUnderscores cs) = .ok n ↔ Reduced cs n := by
  constructor
  · intro h
    by_cases hs : Spaced cs
    · rw [hs.dropUnderscores_eq] at h
      exact .of_spaced hs h
    · cases cs with
      | nil => cases h
      | cons c rest =>
        obtain ⟨hkept, hmem⟩ :=
          dropUnderscores_of_not_spaced (List.cons_ne_nil c rest) hs
        rw [hkept] at h
        rcases readPlain_eq_ok_iff.mp h with ⟨m, hp, -⟩ | ⟨body, m, heq, hp, -⟩
        · exact absurd hmem (not_mem_of_plain rfl hp)
        · rw [heq] at hmem
          have hbody : '_' ∈ body :=
            (List.mem_cons.mp hmem).resolve_left (by decide)
          exact absurd hbody (not_mem_of_plain rfl hp)
  · intro h
    obtain ⟨hs, hread⟩ := h.spaced
    rwa [hs.dropUnderscores_eq]

end SingleNode.Text
