/-
# The texts that are strict integers

A whole number that is a setting may be written in more ways than one: padded,
signed, with a fraction of zeros (`Spells`), and with white space around it
(`StrictNumeral`).  None of this is about reading.  Reading a text gives the
integer that the text spells, and an error if it spells none
(`readStrictInteger_eq_ok_iff`), so a text spells one integer at most.

Digits that are too many are no amount.  They are counted twice: in the text as
it stands, where only those at the very front count, and in the reduced text,
where they are all that is left.
-/
import SingleNode.Proofs.Text.Padding

namespace SingleNode.Text

/-- The text spells the integer, with white space around it. -/
inductive StrictNumeral (s : String) (n : Int) : Prop
  | intro {lead core trail : List Char} :
      (∀ c ∈ lead, isWhiteSpace c = true) →
        (∀ c ∈ trail, isWhiteSpace c = true) → Spells core n →
      s.toList = lead ++ core ++ trail → StrictNumeral s n

variable {cs zeros fraction trail rest : List Char} {ds : List Nat} {n : Nat}

/-! ## White space -/

theorem isWhiteSpace_of_asciiDigit? {c : Char}
    (h : (asciiDigit? c).isSome = true) :
    isWhiteSpace c = false := by
  obtain ⟨d, hd⟩ := Option.isSome_iff_exists.mp h
  exact (asciiDigit?_eq_some_iff.mp hd).1.not_isWhiteSpace

theorem asciiDigit?_of_isWhiteSpace {c : Char} (h : isWhiteSpace c = true) :
    asciiDigit? c = none := by
  rw [← Option.not_isSome_iff_eq_none]
  intro hd
  exact Bool.false_ne_true ((isWhiteSpace_of_asciiDigit? hd).symm.trans h)

theorem Amount.isTrimmed (h : Amount cs n) : IsTrimmed isWhiteSpace cs := by
  cases h with
  | nought =>
    refine ⟨?_, ?_⟩
    · rintro _ ⟨⟩
      rfl
    · rintro _ ⟨⟩
      rfl
  | counted hg => exact hg.isTrimmed

theorem StartsWithDigit.head (h : StartsWithDigit cs) {c : Char}
    (hc : cs.head? = some c) :
    isWhiteSpace c = false := by
  obtain ⟨d, rest, rfl, hd⟩ := h
  obtain rfl := Option.some.inj hc
  exact isWhiteSpace_of_asciiDigit? hd

theorem Amount.last_append (h : Amount cs n) (hf : IsFraction fraction)
    {front : List Char} {c : Char}
    (hc : (front ++ (cs ++ fraction)).getLast? = some c) :
    isWhiteSpace c = false := by
  obtain ⟨first, more, hcs, -⟩ := h.startsWithDigit
  have hne : cs ≠ [] := by
    rw [hcs]
    exact List.cons_ne_nil first more
  rw [List.getLast?_append_of_ne_nil front
    (List.append_ne_nil_of_left_ne_nil hne fraction)] at hc
  cases hf with
  | none =>
    rw [List.append_nil] at hc
    exact h.isTrimmed.last c hc
  | @zeros zs hzs hz =>
    rw [List.getLast?_append_cons, List.getLast?_cons_of_ne_nil hzs] at hc
    obtain rfl := hz c (List.mem_of_getLast? hc)
    rfl

/-- What spells an integer begins with a sign or a digit and ends with a
digit. -/
theorem Spells.isTrimmed {n : Int} (h : Spells cs n) :
    IsTrimmed isWhiteSpace cs := by
  have nonempty {body : List Char} (hb : StartsWithDigit body) : body ≠ [] := by
    obtain ⟨c, rest, rfl, -⟩ := hb
    exact List.cons_ne_nil c rest
  cases h with
  | @early sign zeros cs fraction negative n hs hz ha hf =>
    have hbody := hz.startsWithDigit (.inr (ha.startsWithDigit.append fraction))
    refine hs.isTrimmed_append (nonempty hbody)
      ⟨fun c hc => hbody.head hc, fun c hc => ?_⟩
    exact ha.last_append hf hc
  | @late sign zeros gap cs fraction n hs hz hne hgap ha hf =>
    have hbody : StartsWithDigit (zeros ++ ('-' :: (gap ++ cs) ++ fraction)) :=
      hz.startsWithDigit (.inl hne)
    refine hs.isTrimmed_append (nonempty hbody)
      ⟨fun c hc => hbody.head hc, fun c hc => ?_⟩
    have hfront :
        zeros ++ ('-' :: (gap ++ cs) ++ fraction) = zeros ++ '-' :: gap ++
        (cs ++ fraction) := by
      simp only [List.append_assoc, List.cons_append]
    rw [hfront] at hc
    exact ha.last_append hf hc

theorem reduceInteger_of_strictNumeral {s : String} {n : Int}
    (h : StrictNumeral s n) :
    (reduceInteger s.toList).map readPlain = some (.ok n) := by
  obtain ⟨hl, ht, hcore, heq⟩ := h
  obtain ⟨rest, hdrop, hr⟩ := hcore.reduced
  rw [reduceInteger, heq, trimList_append hl ht hcore.isTrimmed, hdrop]
  exact congrArg some (readPlain_dropUnderscores_eq_ok_iff.mpr hr)

/-! ## The limit of digits -/

theorem takeWhile_eq_nil_of_head
    (h : ∀ c, rest.head? = some c → asciiDigit? c = none) :
    (rest.takeWhile fun c => (asciiDigit? c).isSome) = [] := by
  cases rest with
  | nil => rfl
  | cons c more =>
    refine List.takeWhile_cons_of_neg ?_
    rw [h c rfl]
    exact Bool.false_ne_true

theorem length_takeWhile_cons_le (c : Char) (rest : List Char) :
    ((c :: rest).takeWhile fun c => (asciiDigit? c).isSome).length ≤
      (rest.takeWhile fun c => (asciiDigit? c).isSome).length + 1 := by
  rw [List.takeWhile_cons]
  split
  · exact Nat.le_refl _
  · exact Nat.zero_le _

theorem Grouped.length_takeWhile_le (h : Grouped cs ds)
    (hr : ∀ c, rest.head? = some c → asciiDigit? c = none) :
    ((cs ++ rest).takeWhile fun c => (asciiDigit? c).isSome).length ≤
      ds.length := by
  induction h with
  | @last c d hd =>
    have hstep := length_takeWhile_cons_le c rest
    rwa [takeWhile_eq_nil_of_head hr] at hstep
  | @next c d cs ds hd _ ih =>
    have hstep := length_takeWhile_cons_le c (cs ++ rest)
    rw [List.cons_append, List.length_cons]
    omega
  | @apart c d cs ds hd _ ih =>
    have hstep := length_takeWhile_cons_le c ('_' :: (cs ++ rest))
    have hstop :
        (('_' :: (cs ++ rest)).takeWhile fun c => (asciiDigit? c).isSome) =
          [] :=
      takeWhile_eq_nil_of_head fun x hx => by rw [← Option.some.inj hx]; rfl
    rw [hstop, List.length_nil] at hstep
    rw [List.cons_append, List.cons_append, List.length_cons]
    omega

theorem readAmount_ne_oversized {negative : Bool}
    (h : cs.head? = some '0' ∨
      (cs.takeWhile fun c => (asciiDigit? c).isSome).length ≤ 4300) :
    readAmount negative cs ≠ .error .oversized := by
  intro heq
  by_cases hzero : cs.head? = some '0'
  · obtain ⟨rest, rfl⟩ := List.head?_eq_some_iff.mp hzero
    cases rest with
    | nil => cases heq
    | cons c more => cases heq
  · have hlen := h.resolve_left hzero
    rw [readAmount_of_head hzero, maxDigits,
      if_neg (Nat.not_lt.mpr hlen)] at heq
    split at heq
    · cases heq
    · cases heq

theorem readPlain_ne_oversized_of_head {c : Char} (hd : asciiDigit? c = none)
    (hc : c ≠ '-') :
    readPlain (c :: rest) ≠ .error .oversized := by
  have hhead : (c :: rest).head? ≠ some '-' := fun h => hc (Option.some.inj h)
  have hstop : ∀ x, (c :: rest).head? = some x → asciiDigit? x = none := by
    intro x hx
    rw [← Option.some.inj hx, hd]
  rw [readPlain_of_ne hhead]
  refine readAmount_ne_oversized (.inr ?_)
  rw [takeWhile_eq_nil_of_head hstop]
  exact Nat.zero_le _

theorem IsPadding.readAmount_ne_oversized (hz : IsPadding zeros)
    (hne : zeros ≠ []) (negative : Bool) :
    readAmount negative (zeros ++ rest) ≠ .error .oversized := by
  obtain ⟨more, rfl⟩ := hz.exists_cons hne
  exact Text.readAmount_ne_oversized (.inl rfl)

theorem Amount.readAmount_ne_oversized (h : Amount cs n) (hz : IsPadding zeros)
    (hf : IsFraction fraction) (ht : ∀ c ∈ trail, isWhiteSpace c = true)
    (negative : Bool) :
    readAmount negative (zeros ++ (cs ++ (fraction ++ trail))) ≠
      .error .oversized := by
  by_cases hne : zeros = []
  · have hstop : ∀ c, (fraction ++ trail).head? = some c →
        asciiDigit? c = none := by
      intro c hc
      cases hf with
      | none => exact asciiDigit?_of_isWhiteSpace (ht c (List.mem_of_head? hc))
      | zeros =>
        rw [← Option.some.inj hc]
        rfl
    rw [hne, List.nil_append]
    cases h with
    | nought => exact Text.readAmount_ne_oversized (.inl rfl)
    | counted hg _ _ hlen =>
      exact Text.readAmount_ne_oversized
        (.inr ((hg.length_takeWhile_le hstop).trans hlen))
  · exact hz.readAmount_ne_oversized hne negative

theorem Sign.readPlain_ne_oversized {sign body : List Char} {negative : Bool}
    (hs : Sign sign negative) (hb : StartsWithDigit body)
    (h : ∀ negative, readAmount negative body ≠ .error .oversized) :
    readPlain (sign ++ body) ≠ .error .oversized := by
  cases hs with
  | none =>
    rw [List.nil_append, readPlain_of_ne (hb.head?_ne rfl)]
    exact h false
  | plus => exact readPlain_ne_oversized_of_head rfl (by decide)
  | minus =>
    rw [List.singleton_append, readPlain_minus]
    exact h true

theorem StrictNumeral.readPlain_ne_oversized {s : String} {n : Int}
    (h : StrictNumeral s n) :
    readPlain s.toList ≠ .error .oversized := by
  obtain @⟨lead, core, trail, hl, ht, hcore, heq⟩ := h
  rw [heq]
  cases lead with
  | cons c lead =>
    have hc := hl c List.mem_cons_self
    refine readPlain_ne_oversized_of_head (asciiDigit?_of_isWhiteSpace hc) ?_
    rintro rfl
    cases hc
  | nil =>
    cases hcore with
    | early hs hz ha hf =>
      simp only [List.nil_append, List.append_assoc]
      refine hs.readPlain_ne_oversized
        (hz.startsWithDigit (.inr (ha.startsWithDigit.append _))) ?_
      exact ha.readAmount_ne_oversized hz hf ht
    | late hs hz hne hgap ha hf =>
      simp only [List.nil_append, List.append_assoc]
      refine hs.readPlain_ne_oversized (hz.startsWithDigit (.inl hne)) ?_
      exact hz.readAmount_ne_oversized hne

/-! ## Reading -/

theorem spells_of_readPlain {n : Int} (h : readPlain cs = .ok n) :
    Spells cs n := by
  have bare {sign body : List Char} {negative : Bool} {m : Nat}
      (hs : Sign sign negative) (hp : Plain body m) :
      Spells (sign ++ body) (signed negative m) := by
    have hearly := Spells.early hs isPadding_nil hp.amount .none
    rwa [List.nil_append, List.append_nil] at hearly
  rcases readPlain_eq_ok_iff.mp h with ⟨m, hp, rfl⟩ | ⟨body, m, rfl, hp, rfl⟩
  · exact bare .none hp
  · exact bare .minus hp

theorem strictNumeral_of_reads {s : String} {n : Int}
    (h : readStrictInteger s = .ok n) :
    StrictNumeral s n := by
  rw [readStrictInteger] at h
  split at h
  · split at h
    next m hr =>
      obtain rfl := Except.ok.inj h
      obtain ⟨reduced, hreduce, hplain⟩ := Option.map_eq_some_iff.mp hr
      obtain ⟨rest, hdrop, rfl⟩ := Option.map_eq_some_iff.mp hreduce
      obtain ⟨lead, trail, hl, ht, hcs⟩ :=
        exists_trimList_append isWhiteSpace s.toList
      exact .intro hl ht
        ((readPlain_dropUnderscores_eq_ok_iff.mp hplain).spells hdrop) hcs
    · cases h
  · have hspells := spells_of_readPlain h
    have hnone : ∀ c ∈ ([] : List Char), isWhiteSpace c = true := nofun
    exact .intro hnone hnone hspells (List.append_nil _).symm

/-- What is read from a text is the integer that it spells. -/
theorem readStrictInteger_eq_ok_iff {s : String} {n : Int} :
    readStrictInteger s = .ok n ↔ StrictNumeral s n := by
  refine ⟨strictNumeral_of_reads, fun h => ?_⟩
  have hreduce := reduceInteger_of_strictNumeral h
  cases hp : readPlain s.toList with
  | ok m =>
    -- A text that is plain already is not changed by reducing it.
    have hm : readStrictInteger s = .ok m := by rw [readStrictInteger, hp]
    have hreduce' := reduceInteger_of_strictNumeral (strictNumeral_of_reads hm)
    obtain rfl := Except.ok.inj (Option.some.inj (hreduce.symm.trans hreduce'))
    exact hm
  | error problem =>
    cases problem with
    | malformed => rw [readStrictInteger, hp, hreduce]
    | oversized => exact absurd hp h.readPlain_ne_oversized

/-- A padding may stand before the sign. -/
example : StrictNumeral " +0_-_30.0" (-30) :=
  readStrictInteger_eq_ok_iff.mp (by cbv)

end SingleNode.Text
