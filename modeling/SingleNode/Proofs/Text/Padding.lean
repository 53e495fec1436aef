/-
# What may stand around the digits of an integer

In front of the digits of an integer there may be a padding of zeros and
underscores, with a sign before it, and behind them a fraction of zeros
(`Spells`).  If there is a padding a minus sign may stand after it as well,
unless there is a minus sign before.

All this is taken off to reduce the text to a sign and an amount.  A text is
reduced to these exactly if it spells an integer (`Spells.reduced`,
`Reduced.spells`).
-/
import Mathlib.Data.List.TakeDrop
import SingleNode.Proofs.Text.Amount

namespace SingleNode.Text

/-- Zeros, and underscores among and after them. -/
structure IsPadding (cs : List Char) : Prop where
  light : ∀ c ∈ cs, c = '0' ∨ c = '_'
  head : cs.head? ≠ some '_'

/-- A fraction of zeros, or none. -/
inductive IsFraction : List Char → Prop
  | none : IsFraction []
  | zeros {cs : List Char} : cs ≠ [] →
      (∀ c ∈ cs, c = '0') → IsFraction ('.' :: cs)

/-- An integer is written with its sign, its padding, its digits and its
fraction. -/
inductive Spells : List Char → Int → Prop
  | early {sign zeros cs fraction : List Char} {negative : Bool} {n : Nat} :
      Sign sign negative → IsPadding zeros → Amount cs n → IsFraction fraction →
      Spells (sign ++ (zeros ++ (cs ++ fraction))) (signed negative n)
  | late {sign zeros gap cs fraction : List Char} {n : Nat} :
      Sign sign false → IsPadding zeros → zeros ≠ [] → gap = [] ∨ gap = ['_'] →
      Amount cs n →
      IsFraction fraction →
      Spells (sign ++ (zeros ++ ('-' :: (gap ++ cs) ++ fraction)))
        (signed true n)

variable {cs zeros fraction rest : List Char} {n : Nat}

/-! ## Fractions -/

theorem exists_fraction (cs : List Char) :
    ∃ fraction, IsFraction fraction ∧ cs = dropZeroFraction cs ++ fraction := by
  have hspan :
      cs.span (· != '.') = (cs.takeWhile (· != '.'), cs.dropWhile (· != '.')) :=
    List.span_eq_takeWhile_dropWhile _ cs
  rw [dropZeroFraction, hspan]
  split
  next whole fraction heq =>
    obtain ⟨rfl, hdrop⟩ := Prod.mk.inj heq
    split
    next hzeros =>
      rw [Bool.and_eq_true, List.all_eq_true] at hzeros
      refine ⟨'.' :: fraction, .zeros ?_ ?_, ?_⟩
      · rintro rfl
        cases hzeros.1
      · intro c hc
        simpa using hzeros.2 c hc
      · rw [← hdrop, List.takeWhile_append_dropWhile]
    · exact ⟨[], .none, (List.append_nil cs).symm⟩
  · exact ⟨[], .none, (List.append_nil cs).symm⟩

theorem dropZeroFraction_append (h : '.' ∉ cs) (hf : IsFraction fraction) :
    dropZeroFraction (cs ++ fraction) = cs := by
  have hpoint : ∀ c ∈ cs, (c != '.') = true := by
    intro c hc
    rw [bne_iff_ne]
    rintro rfl
    exact h hc
  rw [dropZeroFraction, List.span_eq_takeWhile_dropWhile,
    List.takeWhile_append_of_pos hpoint, List.dropWhile_append_of_pos hpoint]
  cases hf with
  | none => exact List.append_nil cs
  | @zeros zs hne hz =>
    have hzeros : (!zs.isEmpty && zs.all (· == '0')) = true := by
      rw [Bool.and_eq_true, List.all_eq_true]
      exact ⟨by simpa using hne, fun c hc => by simpa using hz c hc⟩
    show (if (!zs.isEmpty && zs.all (· == '0')) = true then cs ++ [] else _) =
      cs
    rw [if_pos hzeros, List.append_nil]

/-! ## Padding -/

theorem isPadding_nil : IsPadding [] := ⟨nofun, nofun⟩

theorem IsPadding.exists_cons (h : IsPadding zeros) (hne : zeros ≠ []) :
    ∃ rest, zeros = '0' :: rest := by
  obtain ⟨c, rest, rfl⟩ := List.exists_cons_of_ne_nil hne
  obtain rfl := (h.light c List.mem_cons_self).resolve_right fun hc =>
    h.head (congrArg some hc)
  exact ⟨rest, rfl⟩

/-- What may follow a padding that is taken off. -/
inductive Follows (zeros : List Char) : List Char → Prop
  | digit {c : Char} {rest : List Char} : (asciiDigit? c).isSome = true →
      Follows zeros (c :: rest)
  | minus {rest : List Char} : zeros ≠ [] → Follows zeros ('-' :: rest)
  | underscore {rest : List Char} : (∀ c, rest.head? = some c → c = '.') →
      Follows zeros ('_' :: rest)

theorem Follows.cons (h : Follows zeros rest) (c : Char) :
    Follows (c :: zeros) rest := by
  cases h with
  | digit hd => exact .digit hd
  | minus => exact .minus (List.cons_ne_nil c zeros)
  | underscore hr => exact .underscore hr

theorem follows_of_light {c : Char} (hc : c = '0' ∨ c = '_')
    (hr : ∀ d, rest.head? = some d → d = '.') : Follows [] (c :: rest) := by
  rcases hc with rfl | rfl
  · exact .digit rfl
  · exact .underscore hr

open dropLeadingZeros in
theorem exists_light_of_afterZero {last : Char}
    (hlast : last = '0' ∨ last = '_') (h : afterZero last cs = some rest) :
    ∃ zeros, (∀ c ∈ zeros, c = '0' ∨ c = '_') ∧ last :: cs = zeros ++ rest ∧
      Follows zeros rest := by
  induction cs generalizing last with
  | nil =>
    obtain rfl := Option.some.inj h
    exact ⟨[], nofun, rfl, follows_of_light hlast nofun⟩
  | cons c more ih =>
    rw [afterZero] at h
    split at h
    next hc =>
      rw [Bool.or_eq_true, decide_eq_true_iff, decide_eq_true_iff] at hc
      obtain ⟨zeros, hz, heq, hf⟩ := ih hc h
      exact ⟨last :: zeros,
        List.forall_mem_cons.mpr ⟨hlast, hz⟩, by rw [heq, List.cons_append],
        hf.cons last⟩
    next =>
      split at h
      next hpoint =>
        obtain rfl := Option.some.inj h
        obtain rfl := hpoint
        exact ⟨[], nofun, rfl, follows_of_light hlast fun d hd =>
          (Option.some.inj hd).symm⟩
      next =>
        split at h
        next hc =>
          obtain rfl := Option.some.inj h
          refine ⟨[last], by simpa using hlast, rfl, ?_⟩
          rw [Bool.or_eq_true, decide_eq_true_iff] at hc
          rcases hc with rfl | hd
          · exact .minus (List.cons_ne_nil last [])
          · exact .digit hd
        · cases h

/-- What is taken off in front of a number is a padding. -/
theorem exists_padding (h : dropLeadingZeros cs = some rest) :
    ∃ zeros, IsPadding zeros ∧ cs = zeros ++ rest ∧ Follows zeros rest := by
  rw [dropLeadingZeros.eq_def] at h
  split at h
  next more =>
    obtain ⟨zeros, hz, heq, hf⟩ := exists_light_of_afterZero (.inl rfl) h
    refine ⟨zeros, ⟨hz, ?_⟩, heq, hf⟩
    cases zeros with
    | nil => exact nofun
    | cons c zeros =>
      obtain ⟨rfl, -⟩ := List.cons.inj heq
      exact nofun
  next c more _ =>
    split at h
    next hd =>
      obtain rfl := Option.some.inj h
      exact ⟨[], isPadding_nil, rfl, .digit hd⟩
    · cases h
  · cases h

open dropLeadingZeros in
theorem afterZero_append (hz : ∀ c ∈ zeros, c = '0' ∨ c = '_') (last : Char)
    (rest : List Char) :
    ∃ last', afterZero last (zeros ++ rest) = afterZero last' rest := by
  induction zeros generalizing last with
  | nil => exact ⟨last, rfl⟩
  | cons c zeros ih =>
    obtain ⟨hc, hz⟩ := List.forall_mem_cons.mp hz
    obtain ⟨last', h⟩ := ih hz c
    refine ⟨last', ?_⟩
    rw [List.cons_append, afterZero, if_pos, h]
    simpa using hc

theorem dropLeadingZeros_append {c : Char} (hz : IsPadding zeros)
    (hc : (asciiDigit? c).isSome = true ∨ c = '-' ∧ zeros ≠ [])
    (hzero : c ≠ '0') :
    dropLeadingZeros (zeros ++ c :: rest) = some (c :: rest) := by
  cases zeros with
  | nil =>
    obtain hd := hc.resolve_right fun h => h.2 rfl
    rw [List.nil_append, dropLeadingZeros, if_pos hd]
    exact hzero
  | cons z zeros =>
    obtain ⟨hlight, htail⟩ := List.forall_mem_cons.mp hz.light
    obtain rfl := hlight.resolve_right fun h => hz.head (congrArg some h)
    obtain ⟨last, h⟩ := afterZero_append htail '0' (c :: rest)
    have hstops : (decide (c = '-') || (asciiDigit? c).isSome) = true := by
      rcases hc with hd | ⟨rfl, -⟩
      · rw [hd, Bool.or_true]
      · rfl
    have hother : c ≠ '_' ∧ c ≠ '.' := by
      rcases hc with hd | ⟨rfl, -⟩
      · refine ⟨?_, ?_⟩ <;> rintro rfl <;> cases hd
      · decide
    rw [List.cons_append, dropLeadingZeros, h, dropLeadingZeros.afterZero,
      if_neg (by simp [hzero, hother.1]), if_neg hother.2, if_pos hstops]

theorem dropLeadingZeros_nought (hz : IsPadding zeros)
    (hf : IsFraction fraction) :
    dropLeadingZeros (zeros ++ '0' :: fraction) = some ('0' :: fraction) := by
  have hend :
      dropLeadingZeros.afterZero '0' fraction = some ('0' :: fraction) := by
    cases hf with
    | none => rfl
    | zeros => rfl
  cases zeros with
  | nil => exact hend
  | cons z zeros =>
    obtain ⟨hlight, htail⟩ := List.forall_mem_cons.mp hz.light
    obtain rfl := hlight.resolve_right fun h => hz.head (congrArg some h)
    obtain ⟨last, h⟩ := afterZero_append htail '0' ('0' :: fraction)
    rw [List.cons_append, dropLeadingZeros, h]
    exact hend

theorem Amount.dropLeadingZeros_eq (h : Amount cs n) (hz : IsPadding zeros)
    (hf : IsFraction fraction) :
    dropLeadingZeros (zeros ++ (cs ++ fraction)) = some (cs ++ fraction) := by
  obtain ⟨c, rest, rfl, hd⟩ := h.startsWithDigit
  cases h with
  | nought => exact dropLeadingZeros_nought hz hf
  | counted _ _ hzero =>
    exact dropLeadingZeros_append hz (.inl hd) fun heq =>
      hzero (congrArg some heq)

/-! ## Signs -/

theorem IsPadding.startsWithDigit (h : IsPadding zeros)
    (hr : zeros ≠ [] ∨ StartsWithDigit rest) :
    StartsWithDigit (zeros ++ rest) := by
  by_cases hne : zeros = []
  · rw [hne, List.nil_append]
    exact hr.resolve_left fun h => h hne
  · obtain ⟨more, rfl⟩ := h.exists_cons hne
    exact ⟨'0', more ++ rest, rfl, rfl⟩

theorem dropZerosAfterSign_append {sign body : List Char} {negative : Bool}
    (hs : Sign sign negative) (hb : StartsWithDigit body) :
    dropZerosAfterSign (sign ++ body) =
      (dropLeadingZeros body).map fun cs =>
        if negative then '-' :: cs else cs := by
  cases hs with
  | none =>
    rw [List.nil_append, dropZerosAfterSign]
    · exact (Option.map_id' ..).symm
    · rintro _ rfl
      exact hb.head?_ne rfl rfl
    · rintro _ rfl
      exact hb.head?_ne rfl rfl
  | plus => exact (Option.map_id' ..).symm
  | minus => rfl

/-- What spells an integer is reduced to a sign and digits. -/
theorem Spells.reduced {n : Int} (h : Spells cs n) :
    ∃ rest, dropZerosAfterSign cs = some rest ∧
      Reduced (dropZeroFraction rest) n := by
  cases h with
  | @early sign zeros cs fraction negative n hs hz ha hf =>
    have hpoint : '.' ∉ cs := ha.not_mem rfl (by decide)
    have hbody := hz.startsWithDigit (.inr (ha.startsWithDigit.append fraction))
    rw [dropZerosAfterSign_append hs hbody, ha.dropLeadingZeros_eq hz hf]
    refine ⟨_, rfl, ?_⟩
    cases negative with
    | false =>
      show Reduced (dropZeroFraction (cs ++ fraction)) _
      rw [dropZeroFraction_append hpoint hf]
      exact .plain ha
    | true =>
      show Reduced (dropZeroFraction ('-' :: cs ++ fraction)) _
      rw [dropZeroFraction_append _ hf]
      · exact .minus (.inl rfl) ha
      · exact List.not_mem_cons_of_ne_of_not_mem (by decide) hpoint
  | @late sign zeros gap cs fraction n hs hz hne hgap ha hf =>
    have hpoint : '.' ∉ '-' :: (gap ++ cs) := by
      have hcs : '.' ∉ cs := ha.not_mem rfl (by decide)
      rcases hgap with rfl | rfl
      · simpa using hcs
      · simpa using hcs
    rw [dropZerosAfterSign_append hs (hz.startsWithDigit (.inl hne)),
      List.cons_append,
      dropLeadingZeros_append hz (.inr ⟨rfl, hne⟩) (by decide)]
    refine ⟨_, rfl, ?_⟩
    show Reduced (dropZeroFraction ('-' :: (gap ++ cs) ++ fraction)) _
    rw [dropZeroFraction_append hpoint hf]
    exact .minus hgap ha

theorem exists_sign_of_dropZerosAfterSign
    (h : dropZerosAfterSign cs = some rest) :
    ∃ sign negative body unsigned, Sign sign negative ∧ cs = sign ++ body ∧
      dropLeadingZeros body = some unsigned ∧
      rest = if negative then '-' :: unsigned else unsigned := by
  rw [dropZerosAfterSign.eq_def] at h
  split at h
  next body =>
    obtain ⟨unsigned, hu, rfl⟩ := Option.map_eq_some_iff.mp h
    exact ⟨_, _, body, unsigned, .minus, rfl, hu, rfl⟩
  next body => exact ⟨_, _, body, rest, .plus, rfl, h, rfl⟩
  next => exact ⟨_, _, cs, rest, .none, rfl, h, rfl⟩

/-- What is reduced to a sign and digits spells an integer. -/
theorem Reduced.spells {n : Int} (hd : dropZerosAfterSign cs = some rest)
    (h : Reduced (dropZeroFraction rest) n) : Spells cs n := by
  obtain ⟨sign, negative, body, unsigned, hs, rfl, hu, hrest⟩ :=
    exists_sign_of_dropZerosAfterSign hd
  obtain ⟨zeros, hz, rfl, hfollows⟩ := exists_padding hu
  obtain ⟨fraction, hf, heq⟩ := exists_fraction rest
  generalize dropZeroFraction rest = reduced at h heq
  obtain rfl := heq
  cases h with
  | plain ha =>
    cases negative with
    | false =>
      obtain rfl := hrest
      exact .early hs hz ha hf
    | true =>
      -- Digits do not begin with the minus sign that was kept.
      obtain ⟨c, more, rfl, hc⟩ := ha.startsWithDigit
      obtain ⟨rfl, -⟩ := List.cons.inj hrest
      cases hc
  | minus hgap ha =>
    cases negative with
    | false =>
      obtain rfl := hrest
      cases hfollows with
      | digit hc => cases hc
      | minus hne => exact .late hs hz hne hgap ha hf
    | true =>
      obtain rfl := (List.cons.inj hrest).2
      rcases hgap with rfl | rfl
      · exact .early hs hz ha hf
      · obtain ⟨c, more, rfl, hc⟩ := ha.startsWithDigit
        -- An underscore that stays ends the number or stands before the point.
        cases hfollows with
        | digit hunder => cases hunder
        | underscore hpoint =>
          obtain rfl := hpoint c rfl
          cases hc

end SingleNode.Text
