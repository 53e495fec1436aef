/-
# Single-quoted text reads back

What is written in single quotes is read as it was (`readSingle_eq`).  The
induction is over the text that is still to be written.  What the reader has
kept back at that point (`SinglePending`) is one of three things: some spaces, a
run of line breaks, or the line break of a fold, which stands for the space
before it.
-/
import SingleNode.Proofs.Yaml.Flow

namespace SingleNode.Yaml.Reader

/-! ## Steps of the reader -/

section Steps

variable (block : Nat) (gap : Gap) (rest : List Char)

theorem readSingle_space :
    readSingle block gap (' ' :: rest) = readSingle block gap.space rest := by
  rw [readSingle.eq_def]
  rfl

theorem readSingle_newLine :
    readSingle block gap ('\n' :: rest) =
      readSingle block gap.newLine rest := by
  rw [readSingle.eq_def]
  rfl

variable {block gap rest}

theorem readSingle_quotes (h : gap.allows block = true) :
    readSingle block gap ('\'' :: '\'' :: rest) =
      prepend (gap.text ++ ['\'']) (readSingle block (.spaces 0) rest) := by
  rw [readSingle.eq_def]
  simp [h]

theorem readSingle_close (h : gap.allows block = true)
    (hr : rest.head? ≠ some '\'') :
    readSingle block gap ('\'' :: rest) = some (gap.text, rest) := by
  rw [readSingle.eq_def]
  cases rest with
  | nil => simp [h]
  | cons c rest =>
    have hc : c ≠ '\'' := fun hc => hr (congrArg some hc)
    simp [h, hc]

theorem readSingle_content {c : Char} (h : gap.allows block = true)
    (hb : isBlank c = false) (hq : c ≠ '\'') (hp : isPrintable c = true) :
    readSingle block gap (c :: rest) =
      prepend (gap.text ++ [c]) (readSingle block (.spaces 0) rest) := by
  rw [readSingle.eq_def]
  simp only [isBlank, Bool.or_eq_false_iff, decide_eq_false_iff_not] at hb
  simp [h, hb.1, hb.2, hq, hp]

end Steps

/-! ## What may stand in single quotes -/

theorem isBreak_iff_of_isAscii {c : Char}
    (h : (c = '\n' || isPrintableAscii c) = true) :
    isBreak c = true ↔ c = '\n' := by
  constructor
  · intro hb
    rcases Bool.or_eq_true_iff.mp h with h | h
    · exact of_decide_eq_true h
    · simp only [isBreak, Bool.or_eq_true, decide_eq_true_eq] at hb
      rcases hb with ((rfl | rfl) | rfl) | rfl
      · rfl
      all_goals exact absurd h (by decide)
  · rintro rfl
    rfl

theorem hasBreakBesideSpace_tail {a : Char} {cs : List Char}
    (h : hasBreakBesideSpace (a :: cs) = false) :
    hasBreakBesideSpace cs = false := by
  cases cs with
  | nil => rfl
  | cons b cs =>
    rw [hasBreakBesideSpace, Bool.or_eq_false_iff] at h
    exact h.2

theorem not_break_space {b : Char} {cs : List Char}
    (h : hasBreakBesideSpace (b :: ' ' :: cs) = false) : isBreak b = false := by
  simp only [hasBreakBesideSpace, Bool.or_eq_false_iff] at h
  simpa using h.1.1

theorem not_space_break {c : Char} {cs : List Char}
    (h : hasBreakBesideSpace (' ' :: c :: cs) = false) : isBreak c = false := by
  simp only [hasBreakBesideSpace, Bool.or_eq_false_iff] at h
  simpa using h.1.2

/-- A line break is written as itself, after another one if it is the first of
its run, and with the indentation after it if it is the last. -/
theorem singleBody_newLine (indent column : Nat) (before : Option Char)
    (rest : List Char) :
    singleBody indent column before ('\n' :: rest) =
      (if before.any isBreak then [] else ['\n']) ++ '\n' ::
        (if rest.head?.any isBreak then singleBody indent 0 (some '\n') rest
        else List.replicate indent ' ' ++ singleBody indent indent
          (some '\n') rest) := by
  rw [singleBody, if_neg (by decide), if_pos (by decide)]
  by_cases hr : rest.head?.any isBreak = true
  · simp [hr]
  · simp [hr]

/-- What is kept back when the text `cs` is still to come, after the character
`before`. -/
inductive SinglePending (indent : Nat) (before : Option Char)
    (cs : List Char) : Gap → Prop
  | spaces (n : Nat) :
      before.any isBreak = false → (n ≠ 0 → before = some ' ') →
      SinglePending indent before cs (.spaces n)
  | broken (m column : Nat) :
      before.any isBreak = true →
      (cs.head?.any isBreak = false → column = indent) →
      SinglePending indent before cs (.broken (m + 1) column)
  | folded (c : Char) (rest : List Char) :
      before = some ' ' → cs = c :: rest → c ≠ ' ' →
      SinglePending indent before cs (.broken 0 indent)

theorem SinglePending.allows {block indent : Nat} {before : Option Char}
    {cs : List Char} {gap : Gap} (hi : block < indent)
    (h : SinglePending indent before cs gap)
    (hc : cs.head?.any isBreak = false) : gap.allows block = true := by
  cases h with
  | spaces n => rfl
  | broken m column _ hcol => exact decide_eq_true (hcol hc ▸ hi)
  | folded => exact decide_eq_true hi

/-- What is still to be written behind a character reads as it was, whatever was
kept back. -/
def SingleReads (block indent : Nat) (tail : List Char) (before : Option Char)
    (cs : List Char) :
    Prop :=
  ∀ ⦃column : Nat⦄ ⦃gap : Gap⦄, SinglePending indent before cs gap →
    readSingle block gap (singleBody indent column before cs ++ '\'' :: tail) =
      some (gap.text ++ cs, tail)

namespace SingleReads

variable {block indent : Nat} {tail : List Char} {before : Option Char}
  {rest : List Char}

theorem nil (hi : block < indent) (ht : tail.head? ≠ some '\'') :
    SingleReads block indent tail before [] := by
  intro column gap hg
  rw [singleBody, List.nil_append, List.append_nil]
  exact readSingle_close (hg.allows hi rfl) ht

theorem quote (hi : block < indent)
    (next : SingleReads block indent tail (some '\'') rest) :
    SingleReads block indent tail before ('\'' :: rest) := by
  intro column gap hg
  rw [singleBody, if_pos rfl]
  change readSingle block gap
    ('\'' :: '\'' :: (singleBody _ _ _ rest ++ '\'' :: tail)) = _
  rw [readSingle_quotes (hg.allows hi rfl), next (.spaces 0 rfl (absurd rfl))]
  simp [prepend, Gap.text]

/-- A line break has no space in front of it. The line break that is written in
front of a run of them is the one that the reader takes for a space if no other
follows. -/
theorem newLine (hs : before ≠ some ' ')
    (next : SingleReads block indent tail (some '\n') rest) :
    SingleReads block indent tail before ('\n' :: rest) := by
  have after (m : Nat) : readSingle block (.broken (m + 1) 0)
      ((if rest.head?.any isBreak then singleBody indent 0 (some '\n') rest
        else List.replicate indent ' ' ++ singleBody indent indent
          (some '\n') rest) ++
          '\'' :: tail) = some (List.replicate (m + 1) '\n' ++ rest, tail) := by
    by_cases hr : rest.head?.any isBreak = true
    · rw [if_pos hr]
      exact next (.broken m 0 rfl fun h => absurd h (by rw [hr]; decide))
    · rw [if_neg hr, List.append_assoc, read_replicate (readSingle_space block),
        Gap.widen, Nat.zero_add]
      exact next (.broken m indent rfl fun _ => rfl)
  intro column gap hg
  rw [singleBody_newLine]
  cases hg with
  | spaces n hnb hsp =>
    obtain rfl : n = 0 := Decidable.byContradiction fun hn => hs (hsp hn)
    rw [hnb, if_neg Bool.false_ne_true, List.append_assoc, List.cons_append,
      List.cons_append, List.nil_append, readSingle_newLine, readSingle_newLine]
    exact after 0
  | broken m column hbk _ =>
    rw [hbk, if_pos rfl, List.nil_append, List.cons_append, readSingle_newLine]
    refine (after (m + 1)).trans ?_
    rw [Gap.text, List.replicate_succ', List.append_assoc]
    rfl
  | folded c rest hsp => exact absurd hsp hs

/-- A space has no line break in front of it. If the line is folded there, the
line break stands for the space, since no other one is beside it. -/
theorem space (hb : before.any isBreak = false)
    (next : SingleReads block indent tail (some ' ') rest) :
    SingleReads block indent tail before (' ' :: rest) := by
  intro column gap hg
  rw [singleBody, if_neg (by decide), if_neg (by decide)]
  cases hg with
  | spaces n _ hsp =>
    split
    · rename_i hfold
      simp only [Bool.and_eq_true] at hfold
      obtain ⟨⟨⟨-, hbs⟩, hrs⟩, -⟩ := hfold
      obtain rfl : n = 0 := by
        refine Decidable.byContradiction fun hn => ?_
        rw [hsp hn] at hbs
        cases hbs
      cases rest with
      | nil => cases hrs
      | cons d rest =>
        rw [Yaml.newLine, List.append_assoc, List.cons_append,
          readSingle_newLine, Gap.newLine,
          read_replicate (readSingle_space block), Gap.widen, Nat.zero_add]
        exact next (.folded d rest rfl rfl (by simpa using hrs))
    · rw [List.cons_append, readSingle_space, Gap.space]
      refine (next (.spaces (n + 1) rfl fun _ => rfl)).trans ?_
      rw [Gap.text, Gap.text, List.replicate_succ', List.append_assoc]
      rfl
  | broken m column hbk _ =>
    rw [hb] at hbk
    cases hbk
  | folded c rest _ hcs hne =>
    obtain ⟨rfl, -⟩ := List.cons_eq_cons.mp hcs
    exact absurd rfl hne

theorem content (hi : block < indent) {c : Char} (hq : c ≠ '\'')
    (hbr : isBreak c = false) (hs : c ≠ ' ') (hp : isPrintable c = true)
    (next : SingleReads block indent tail (some c) rest) :
    SingleReads block indent tail before (c :: rest) := by
  intro column gap hg
  have hn : c ≠ '\n' := by
    rintro rfl
    cases hbr
  rw [singleBody, if_neg hq, if_neg (Bool.eq_false_iff.mp hbr),
    if_neg (by simp [hs])]
  change readSingle block gap (c :: (singleBody _ _ _ rest ++ '\'' :: tail)) = _
  rw [readSingle_content (hg.allows hi hbr) (by simp [isBlank, hs, hn]) hq hp,
    next (.spaces 0 hbr (absurd rfl))]
  simp [prepend, Gap.text]

end SingleReads

/-- What is still to be written in single quotes reads as it was, behind what
was kept back. -/
theorem singleReads {block indent : Nat} (hi : block < indent)
    {tail : List Char} (ht : tail.head? ≠ some '\'') (cs : List Char)
    (hcs : isAsciiText cs = true) {before : Option Char}
    (hb : hasBreakBesideSpace (before.toList ++ cs) = false) :
    SingleReads block indent tail before cs := by
  induction cs generalizing before with
  | nil => exact .nil hi ht
  | cons c rest ih =>
    obtain ⟨hascii, hrest⟩ := Bool.and_eq_true_iff.mp hcs
    have hbc : hasBreakBesideSpace (c :: rest) = false := by
      cases before with
      | none => exact hb
      | some b => exact hasBreakBesideSpace_tail hb
    have next : SingleReads block indent tail (some c) rest := ih hrest hbc
    by_cases hq : c = '\''
    · subst hq
      exact .quote hi next
    by_cases hbr : isBreak c = true
    · obtain rfl := (isBreak_iff_of_isAscii hascii).mp hbr
      refine .newLine ?_ next
      rintro rfl
      rw [not_space_break hb] at hbr
      cases hbr
    by_cases hs : c = ' '
    · subst hs
      refine .space ?_ next
      cases before with
      | none => rfl
      | some b => exact not_break_space hb
    · have hn : c ≠ '\n' := fun h => hbr ((isBreak_iff_of_isAscii hascii).mpr h)
      have hp : isPrintable c = true :=
        (Bool.or_eq_true_iff.mp hascii).resolve_left (by simp [hn])
      exact .content hi hq (Bool.eq_false_iff.mpr hbr) hs hp next

/-- What is written in single quotes reads as it was. -/
theorem readSingle_eq {block indent : Nat} (hi : block < indent) (column : Nat)
    {cs tail : List Char} (h : allowsSingle cs = true)
    (ht : tail.head? ≠ some '\'') :
    readSingle block (.spaces 0)
      (singleBody indent column none cs ++ '\'' :: tail) =
      some (cs, tail) := by
  simp only [allowsSingle, Bool.and_eq_true, Bool.not_eq_eq_eq_not,
    Bool.not_true] at h
  exact @singleReads block indent hi tail ht cs h.1 none h.2 column _
    (.spaces 0 rfl (absurd rfl))

end SingleNode.Yaml.Reader
