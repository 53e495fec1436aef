/-
# Plain text reads back

What is written plain is read as it was (`readPlain_eq`), up to whatever ends a
plain scalar.  The conditions on the text are those of `allowsPlain`, taken
apart so that they hold of every end of the text: its characters are printable,
no mark in it has a meaning, and its last character is no space.
-/
import SingleNode.Proofs.Yaml.Flow

namespace SingleNode.Yaml.Reader

/-! ## Steps of the reader -/

section Steps

variable {block : Option Nat} {gap : Gap} {rest : List Char}

theorem readPlain_space (block : Option Nat) (gap : Gap) (rest : List Char) :
    readPlain block gap (' ' :: rest) = readPlain block gap.space rest := by
  rw [readPlain.eq_def]
  rfl

theorem readPlain_newLine (h : continues block rest = true) :
    readPlain block gap ('\n' :: rest) = readPlain block gap.newLine rest := by
  rw [readPlain.eq_def]
  simp [h]

theorem readPlain_content {c : Char} (hb : isBlank c = false)
    (hp : isPrintable c = true)
    (hcolon : c = ':' → rest.head?.all isBlank = false)
    (hhash : c = '#' → gap.text = []) :
    readPlain block gap (c :: rest) =
      prepend (gap.text ++ [c]) (readPlain block (.spaces 0) rest) := by
  simp only [isBlank, Bool.or_eq_false_iff, decide_eq_false_iff_not] at hb
  rw [readPlain.eq_def]
  by_cases h : c = ':'
  · subst h
    simp [hcolon rfl, hp]
  · by_cases h' : c = '#'
    · subst h'
      simp [hhash rfl, hp]
    · simp [hb.1, hb.2, h, h', hp]

end Steps

/-- What ends a plain scalar. -/
def Stops (block : Option Nat) (tail : List Char) : Prop :=
  ∀ gap, readPlain block gap tail = some ([], tail)

theorem stops_colon {block : Option Nat} {tail : List Char}
    (h : tail.head?.all isBlank = true) :
    Stops block (':' :: tail) := by
  intro gap
  rw [readPlain.eq_def]
  simp [h]

theorem stops_newLine {block : Option Nat} {tail : List Char}
    (h : continues block tail = false) :
    Stops block ('\n' :: tail) := by
  intro gap
  rw [readPlain.eq_def]
  simp [h]

theorem nextColumn_replicate {c : Char} (hc : isBlank c = false)
    (rest : List Char) (n column : Nat) :
    nextColumn column (List.replicate n ' ' ++ c :: rest) =
      some (column + n) := by
  induction n generalizing column with
  | zero =>
    simp only [isBlank, Bool.or_eq_false_iff, decide_eq_false_iff_not] at hc
    simp [nextColumn, hc.1, hc.2]
  | succ n ih =>
    rw [List.replicate_succ, List.cons_append, nextColumn, if_pos rfl, ih,
      Nat.add_right_comm, Nat.add_assoc]

theorem continues_replicate {c : Char} (hc : isBlank c = false) (block n : Nat)
    (rest : List Char) :
    continues (some block) (List.replicate n ' ' ++ c :: rest) =
      decide (block < n) := by
  simp only [continues]
  rw [nextColumn_replicate hc, Nat.zero_add]

/-! ## Plain text -/

/-- What makes the rest of a text, behind the character `before`, safe to stand
plain. -/
structure PlainRest (before : Char) (cs : List Char) : Prop where
  printable : ∀ c ∈ cs, isPrintable c = true
  unmarked : hasInnerMark before cs = false
  closed : cs.getLast? ≠ some ' '

namespace PlainRest

theorem tail {before c : Char} {rest : List Char}
    (h : PlainRest before (c :: rest)) :
    PlainRest c rest where
  printable d hd := h.printable d (List.mem_cons_of_mem c hd)
  unmarked := by
    have hm := h.unmarked
    rw [hasInnerMark, Bool.or_eq_false_iff] at hm
    exact hm.2
  closed hl := h.closed (by
    cases rest with
    | nil => cases hl
    | cons d rest => exact hl)

theorem after_space {before : Char} {rest : List Char}
    (h : PlainRest before (' ' :: rest)) :
    rest ≠ [] := by
  rintro rfl
  exact h.closed rfl

theorem not_hash_after_space {rest : List Char}
    (h : PlainRest ' ' ('#' :: rest)) : False := by
  have hm := h.unmarked
  rw [hasInnerMark] at hm
  cases hm

theorem after_colon {before : Char} {rest : List Char}
    (h : PlainRest before (':' :: rest)) :
    ∃ d ds, rest = d :: ds ∧ d ≠ ' ' := by
  have hm := h.unmarked
  rw [hasInnerMark, Bool.or_eq_false_iff, Bool.or_eq_false_iff] at hm
  cases rest with
  | nil => exact nomatch hm.1.1
  | cons d ds =>
    refine ⟨d, ds, rfl, ?_⟩
    rintro rfl
    exact nomatch hm.1.1

end PlainRest

theorem isBlank_of_isPrintable {c : Char} (hp : isPrintable c = true)
    (hs : c ≠ ' ') :
    isBlank c = false := by
  have hn : c ≠ '\n' := by
    rintro rfl
    exact absurd hp (by decide)
  simp [isBlank, hs, hn]

/-- Plain text is not folded before a character other than a space. -/
theorem plainBody_cons {c : Char} (hc : c ≠ ' ') (indent column : Nat)
    (before : Char) (rest : List Char) :
    plainBody indent column before (c :: rest) = c ::
      plainBody indent (column + 1) c rest := by
  rw [plainBody, if_neg (by simp [hc])]

/-- What is kept back when the text `cs` is still to come, after the character
`before`. -/
inductive PlainPending (indent : Nat) (before : Char)
    (cs : List Char) : Gap → Prop
  | spaces (n : Nat) : (n ≠ 0 → before = ' ' ∧ cs ≠ []) →
      PlainPending indent before cs (.spaces n)
  | folded (c : Char) (rest : List Char) : before = ' ' →
      cs = c :: rest → c ≠ ' ' →
      PlainPending indent before cs (.broken 0 indent)

theorem PlainPending.space {indent : Nat} {before : Char} {cs : List Char}
    {gap : Gap} (h : PlainPending indent before cs gap) (ht : gap.text ≠ []) :
    before = ' ' := by
  cases h with
  | spaces n hn =>
    refine (hn ?_).1
    rintro rfl
    exact ht rfl
  | folded c rest hb => exact hb

/-- What is still to be written behind a character reads as it was, whatever was
kept back. -/
def PlainReads (block : Option Nat) (indent : Nat) (tail : List Char)
    (before : Char) (cs : List Char) : Prop :=
  ∀ ⦃column : Nat⦄ ⦃gap : Gap⦄, PlainPending indent before cs gap →
    readPlain block gap (plainBody indent column before cs ++ tail) =
      some (gap.text ++ cs, tail)

namespace PlainReads

variable {indent : Nat} {tail : List Char} {before : Char} {rest : List Char}

theorem nil {block : Option Nat} (ht : Stops block tail) :
    PlainReads block indent tail before [] := by
  intro column gap hg
  rw [plainBody, List.nil_append, ht, List.append_nil]
  cases hg with
  | spaces n hn =>
    obtain rfl : n = 0 := Decidable.byContradiction fun h => (hn h).2 rfl
    rfl
  | folded c rest _ h => cases h

/-- If the line is folded at a space, the line break stands for the space, since
no other one is beside it. -/
theorem space {b : Nat} (hi : b < indent) (hcs : PlainRest before (' ' :: rest))
    (next : PlainReads (some b) indent tail ' ' rest) :
    PlainReads (some b) indent tail before (' ' :: rest) := by
  intro column gap hg
  obtain ⟨d, ds, rfl⟩ := List.exists_cons_of_ne_nil hcs.after_space
  cases hg with
  | spaces n hn =>
    rw [plainBody]
    split
    · rename_i hfold
      simp only [Bool.and_eq_true, bne_iff_ne, ne_eq] at hfold
      obtain ⟨⟨⟨-, hbs⟩, hd⟩, -⟩ := hfold
      obtain rfl : n = 0 := Decidable.byContradiction fun h => hbs (hn h).1
      have hd : d ≠ ' ' := by simpa using hd
      have hdb : isBlank d = false :=
        isBlank_of_isPrintable (hcs.printable d (by simp)) hd
      have hc : continues (some b) (List.replicate indent ' ' ++
          (plainBody indent indent ' ' (d :: ds) ++ tail)) = true := by
        rw [plainBody_cons hd, List.cons_append, continues_replicate hdb]
        exact decide_eq_true hi
      rw [newLine, List.append_assoc, List.cons_append,
        readPlain_newLine hc, Gap.newLine,
        read_replicate (readPlain_space (some b)), Gap.widen, Nat.zero_add]
      exact next (.folded d ds rfl rfl hd)
    · rw [List.cons_append, readPlain_space, Gap.space]
      refine (next (.spaces (n + 1) fun _ =>
        ⟨rfl, List.cons_ne_nil d ds⟩)).trans ?_
      rw [Gap.text, Gap.text, List.replicate_succ', List.append_assoc]
      rfl
  | folded c rest _ hcs hne =>
    obtain ⟨rfl, -⟩ := List.cons_eq_cons.mp hcs
    exact absurd rfl hne

theorem content {block : Option Nat} {c : Char} (hs : c ≠ ' ')
    (hcs : PlainRest before (c :: rest))
    (next : PlainReads block indent tail c rest) :
    PlainReads block indent tail before (c :: rest) := by
  intro column gap hg
  have hp : isPrintable c = true := hcs.printable c List.mem_cons_self
  have hcolon : c = ':' →
      (plainBody indent (column + 1) c rest ++ tail).head?.all isBlank =
        false := by
    rintro rfl
    obtain ⟨d, ds, rfl, hd⟩ := hcs.after_colon
    rw [plainBody_cons hd]
    exact isBlank_of_isPrintable (hcs.printable d (by simp)) hd
  have hhash : c = '#' → gap.text = [] := by
    rintro rfl
    refine Decidable.byContradiction fun h => ?_
    obtain rfl := hg.space h
    exact hcs.not_hash_after_space
  rw [plainBody_cons hs, List.cons_append,
    readPlain_content (isBlank_of_isPrintable hp hs) hp hcolon hhash,
    next (.spaces 0 (absurd rfl))]
  simp [prepend, Gap.text]

end PlainReads

/-- What is still to be written plain reads as it was, behind what was kept
back. -/
theorem plainReads {block : Option Nat} {indent : Nat} {tail : List Char}
    (ht : Stops block tail) (cs : List Char)
    (hi : ' ' ∈ cs → ∃ b, block = some b ∧ b < indent) {before : Char}
    (hcs : PlainRest before cs) : PlainReads block indent tail before cs := by
  induction cs generalizing before with
  | nil => exact .nil ht
  | cons c rest ih =>
    have next : PlainReads block indent tail c rest :=
      ih (fun h => hi (List.mem_cons_of_mem c h)) hcs.tail
    by_cases hs : c = ' '
    · subst hs
      obtain ⟨b, rfl, hb⟩ := hi List.mem_cons_self
      exact .space hb hcs next
    · exact .content hs hcs next

/-- What is written plain reads as it was. -/
theorem readPlain_eq {block : Option Nat} {indent : Nat} {cs tail : List Char}
    (ht : Stops block tail) (hi : ' ' ∈ cs → ∃ b, block = some b ∧ b < indent)
    (hcs : PlainRest ' ' cs) (column : Nat) :
    readPlain block (.spaces 0) (plainBody indent column ' ' cs ++ tail) =
      some (cs, tail) :=
  plainReads ht cs hi hcs (.spaces 0 (absurd rfl))

theorem plainBody_of_not_mem {cs : List Char} (h : ' ' ∉ cs)
    (indent column : Nat) (before : Char) :
    plainBody indent column before cs = cs := by
  induction cs generalizing column before with
  | nil => rfl
  | cons c rest ih =>
    have hc : c ≠ ' ' := fun hc => h (hc ▸ List.mem_cons_self)
    rw [plainBody_cons hc, ih fun hr => h (List.mem_cons_of_mem c hr)]

theorem readPlain_line {block : Option Nat} {cs tail : List Char}
    (ht : Stops block tail) (hs : ' ' ∉ cs) (hcs : PlainRest ' ' cs) :
    readPlain block (.spaces 0) (cs ++ tail) = some (cs, tail) := by
  have h := @readPlain_eq block 0 cs tail ht (fun h => absurd h hs) hcs 0
  rwa [plainBody_of_not_mem hs] at h

/-! ## What starts a plain scalar -/

/-- What is known of a text that may stand plain. -/
theorem of_allowsPlain {cs : List Char} (h : allowsPlain cs = true) :
    PlainRest ' ' cs ∧ hasIndicator cs = false ∧
    cs.head?.any isSpaceOrBreak = false := by
  simp only [allowsPlain, allowsSingle, Bool.and_eq_true, Bool.not_eq_eq_eq_not,
    Bool.not_true] at h
  obtain ⟨⟨⟨⟨⟨hascii, -⟩, hbreak⟩, hfirst⟩, hlast⟩, hmark⟩ := h
  refine ⟨⟨?_, ?_, ?_⟩, hmark, hfirst⟩
  · intro c hc
    have ha := List.all_eq_true.mp hascii c hc
    have hn : c ≠ '\n' := by
      rintro rfl
      exact absurd (List.any_eq_true.mpr ⟨_, hc, rfl⟩)
        (Bool.eq_false_iff.mp hbreak)
    exact (Bool.or_eq_true_iff.mp ha).resolve_left (by simp [hn])
  · cases cs with
    | nil => rfl
    | cons c rest =>
      simp only [hasIndicator, Bool.or_eq_false_iff] at hmark
      obtain ⟨⟨⟨-, hlead⟩, halone⟩, hrest⟩ := hmark
      have hcolon :
          (decide (c = ':') && rest.head?.all isSeparator) = false := by
        by_cases hc : c = ':'
        · subst hc
          exact halone
        · simp [hc]
      have hhash : c ≠ '#' := by
        rintro rfl
        cases hlead
      rw [hasInnerMark, hrest, hcolon, decide_eq_false hhash]
      rfl
  · intro hl
    rw [hl] at hlast
    cases hlast

/-- A word without blanks and colons stands in front of a written text only if
it stands in front of the text. -/
theorem isPrefixOf_plainBody {tail : List Char}
    (ht : ∀ c ∈ tail.head?, c = '\n' ∨ c = ':') {w : List Char}
    (hw : ∀ c ∈ w, c ≠ ' ' ∧ c ≠ '\n' ∧ c ≠ ':') {cs : List Char}
    {indent column : Nat} {before : Char}
    (h : w.isPrefixOf (plainBody indent column before cs ++ tail) = true) :
    w.isPrefixOf cs = true := by
  induction w generalizing cs column before with
  | nil => rfl
  | cons a w ih =>
    obtain ⟨⟨hs, hn, hcolon⟩, hw⟩ := List.forall_mem_cons.mp hw
    cases cs with
    | nil =>
      cases tail with
      | nil => cases h
      | cons t tail =>
        obtain rfl : a = t :=
          (List.cons_prefix_cons.mp (List.isPrefixOf_iff_prefix.mp h)).1
        exact absurd (ht a rfl) (by simp [hn, hcolon])
    | cons c rest =>
      by_cases hc : c = ' '
      · rw [plainBody] at h
        split at h
        · exact absurd (List.cons_prefix_cons.mp
            (List.isPrefixOf_iff_prefix.mp h)).1 hn
        · exact absurd ((List.cons_prefix_cons.mp
            (List.isPrefixOf_iff_prefix.mp h)).1.trans hc) hs
      · rw [plainBody_cons hc, List.cons_append, List.isPrefixOf_cons_cons,
          Bool.and_eq_true] at h
        rw [List.isPrefixOf_cons_cons, Bool.and_eq_true]
        exact ⟨h.1, ih hw h.2⟩

/-- A mark at the front of a text that may stand plain has something behind it
that does not separate. -/
theorem of_indicator {c : Char} {rest : List Char}
    (h : hasIndicator (c :: rest) = false) (hc : c ∈ indicators) :
    (c = '-' || c = '?' || c = ':') = true ∧
    rest.head?.all isSeparator = false := by
  have marks : ∀ c ∈ indicators, (c = '-' || c = '?' || c = ':') = true ∧
      (c = '?' || c = ':' || c = '-') = true ∨ leadingMarks.contains c = true :=
    forall_mem_of_all (by decide)
  simp only [hasIndicator, Bool.or_eq_false_iff] at h
  obtain ⟨⟨⟨-, hlead⟩, halone⟩, -⟩ := h
  obtain ⟨hfront, hmark⟩ :=
    (marks c hc).resolve_right (Bool.eq_false_iff.mp hlead)
  rw [hmark, Bool.true_and] at halone
  exact ⟨hfront, halone⟩

theorem startsPlain_plainBody {cs tail : List Char} (h : allowsPlain cs = true)
    (hne : cs ≠ []) (column indent : Nat)
    (ht : ∀ c ∈ tail.head?, c = '\n' ∨ c = ':') :
    startsPlain (plainBody indent column ' ' cs ++ tail) = true := by
  obtain ⟨hcs, hmark, hfirst⟩ := of_allowsPlain h
  have noMark {w : List Char} (hw : ∀ c ∈ w, c ≠ ' ' ∧ c ≠ '\n' ∧ c ≠ ':')
      (htake : (cs.take w.length == w) = false) :
      w.isPrefixOf (plainBody indent column ' ' cs ++ tail) = false := by
    refine Bool.eq_false_iff.mpr fun hp => ?_
    have hpre := List.isPrefixOf_iff_prefix.mp (isPrefixOf_plainBody ht hw hp)
    rw [← List.prefix_iff_eq_take.mp hpre, beq_self_eq_true] at htake
    cases htake
  cases cs with
  | nil => exact absurd rfl hne
  | cons c rest =>
    have hs : c ≠ ' ' := by
      rintro rfl
      cases hfirst
    have hfront : (!indicators.contains c || ((c = '-' || c = '?' || c = ':') &&
        (plainBody indent (column + 1) c rest ++ tail).head?.any fun d =>
          !isBlank d)) = true := by
      by_cases hc : indicators.contains c = true
      · obtain ⟨hthree, hnext⟩ :=
          of_indicator hmark (List.contains_iff_mem.mp hc)
        cases rest with
        | nil => cases hnext
        | cons d ds =>
          have hd : d ≠ ' ' := by
            rintro rfl
            cases hnext
          have hblank : isBlank d = false :=
            isBlank_of_isPrintable (hcs.printable d (by simp)) hd
          rw [plainBody_cons hd, List.cons_append, List.head?_cons,
            Option.any_some, hthree, hblank]
          exact Bool.or_true _
      · rw [Bool.eq_false_iff.mpr hc]
        rfl
    simp only [hasIndicator, Bool.or_eq_false_iff] at hmark
    have h1 :=
      @noMark ['-', '-', '-'] (forall_mem_of_all (by decide)) hmark.1.1.1.1
    have h2 :=
      @noMark ['.', '.', '.'] (forall_mem_of_all (by decide)) hmark.1.1.1.2
    rw [plainBody_cons hs, List.cons_append] at h1 h2 ⊢
    rw [startsPlain, h1, h2, hfront, hcs.printable c List.mem_cons_self]
    simpa using hs

end SingleNode.Yaml.Reader
