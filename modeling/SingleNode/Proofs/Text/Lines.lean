/-
# Words that are written one to a line

A word is a text without a line end that neither begins nor ends with a blank.
Words are written one to a line if between each two of them there is a line end,
and there is nothing but blanks around them (`WritesLines`): lines may be
indented, empty lines may stand anywhere, and the last line may lack its end.

Every text is made of words in one way only.  They are what is left of its lines
when these are trimmed and those with nothing left are dropped
(`trimmedLines_eq_iff`).
-/
import SingleNode.Proofs.Text.Trim

namespace SingleNode.Text

/-- A text that stands in one line and has no blank at an end. -/
structure IsWord (cs : List Char) : Prop where
  ne_nil : cs ≠ []
  unbroken : ∀ c ∈ cs, isLineEnd c = false
  trimmed : IsTrimmed isBlank cs

/-- The text is made of words, one to a line. -/
inductive WritesLines : List (List Char) → List Char → Prop
  | blank {space : List Char} : (∀ c ∈ space, isBlank c = true) →
      WritesLines [] space
  | last {lead word space : List Char} :
      (∀ c ∈ lead, isBlank c = true) → IsWord word →
        (∀ c ∈ space, isBlank c = true) →
      WritesLines [word] (lead ++ (word ++ space))
  | more {lead word space rest : List Char} {words : List (List Char)} :
      (∀ c ∈ lead, isBlank c = true) → IsWord word →
        (∀ c ∈ space, isBlank c = true) →
      (∃ c ∈ space, isLineEnd c = true) → WritesLines words rest →
      WritesLines (word :: words) (lead ++ (word ++ (space ++ rest)))

/-- The lines of a text, trimmed, without those that are empty then. -/
def trimmedLines (cs : List Char) : List (List Char) :=
  ((lineList cs).map (trimList isBlank)).filter fun line => !line.isEmpty

theorem isBlank_of_isLineEnd {c : Char} (h : isLineEnd c = true) :
    isBlank c = true := by
  simp only [isLineEnd, Bool.or_eq_true, Bool.and_eq_true, decide_eq_true_eq,
    beq_iff_eq] at h
  simp only [isBlank, isWhiteSpace, Bool.or_eq_true, Bool.and_eq_true,
    decide_eq_true_eq, beq_iff_eq]
  omega

theorem isWord_of_not_blank {cs : List Char} (hne : cs ≠ [])
    (h : ∀ c ∈ cs, isBlank c = false) :
    IsWord cs where
  ne_nil := hne
  unbroken c hc := by
    rw [Bool.eq_false_iff]
    intro he
    exact Bool.false_ne_true ((h c hc).symm.trans (isBlank_of_isLineEnd he))
  trimmed :=
    ⟨fun c hc => h c (List.mem_of_head? hc), fun c hc =>
    h c (List.mem_of_getLast? hc)⟩

/-! ## Lines -/

variable {cs line rest space : List Char} {e : Char}

theorem lineList_cons {c : Char} (h : isLineEnd c = false) (rest : List Char) :
    lineList (c :: rest) =
      match lineList rest with
      | [] => [[c]]
      | first :: others => (c :: first) :: others := by
  have hpair : ∀ rest', c = '\r' → rest = '\n' :: rest' → False := by
    rintro _ rfl
    cases h
  exact (lineList.eq_3 c rest hpair).trans
    (if_neg (ne_of_eq_of_ne h Bool.false_ne_true))

theorem lineList_of_unbroken (hne : line ≠ [])
    (h : ∀ c ∈ line, isLineEnd c = false) :
    lineList line = [line] := by
  induction line with
  | nil => exact absurd rfl hne
  | cons c more ih =>
    have step := lineList_cons (h c List.mem_cons_self) more
    cases more with
    | nil => exact step
    | cons d more =>
      rw [step, ih (List.cons_ne_nil d more) fun x hx =>
        h x (List.mem_cons_of_mem c hx)]

/-- A line end closes a line.  A line feed that belongs to the same line end is
not part of what follows. -/
theorem lineList_append_lineEnd (h : ∀ c ∈ line, isLineEnd c = false)
    (he : isLineEnd e = true) (rest : List Char) :
    ∃ rest', (rest = rest' ∨ rest = '\n' :: rest') ∧
      lineList (line ++ e :: rest) = line :: lineList rest' := by
  induction line with
  | nil =>
    rw [List.nil_append]
    by_cases hpair : e = '\r' ∧ rest.head? = some '\n'
    · obtain ⟨rfl, hrest⟩ := hpair
      obtain ⟨tail, rfl⟩ := List.head?_eq_some_iff.mp hrest
      exact ⟨tail, .inr rfl, rfl⟩
    · have hsingle : ∀ tail, e = '\r' → rest = '\n' :: tail → False := by
        rintro tail rfl rfl
        exact hpair ⟨rfl, rfl⟩
      exact ⟨rest, .inl rfl, (lineList.eq_3 e rest hsingle).trans (if_pos he)⟩
  | cons c more ih =>
    obtain ⟨rest', hrest, hl⟩ := ih fun x hx => h x (List.mem_cons_of_mem c hx)
    refine ⟨rest', hrest, ?_⟩
    rw [List.cons_append, lineList_cons (h c List.mem_cons_self), hl]

/-! ## Trimmed lines -/

theorem trimmedLines_eq (hl : lineList cs = line :: lineList rest) :
    trimmedLines cs = if trimList isBlank line = [] then trimmedLines rest
      else trimList isBlank line :: trimmedLines rest := by
  rw [trimmedLines, hl, List.map_cons, List.filter_cons]
  cases ht : trimList isBlank line with
  | nil => rfl
  | cons c more => rfl

/-- A blank in front of a text does not count, be it in the first line or an end
of a line. -/
theorem trimmedLines_cons_of_blank {c : Char} (hc : isBlank c = true)
    (rest : List Char) :
    trimmedLines (c :: rest) = trimmedLines rest := by
  cases he : isLineEnd c with
  | true =>
    have hnone : ∀ c ∈ ([] : List Char), isLineEnd c = false := nofun
    obtain ⟨rest', hrest, hl⟩ := lineList_append_lineEnd hnone he rest
    have hnil : trimList isBlank [] = [] := rfl
    have hclosed : trimmedLines (c :: rest) = trimmedLines rest' :=
      (trimmedLines_eq hl).trans (if_pos hnil)
    rw [hclosed]
    -- A line feed after a carriage return is part of the end.  Kept in the rest
    -- it is an empty line.
    rcases hrest with rfl | rfl
    · rfl
    · have hfeed : lineList ('\n' :: rest') = [] :: lineList rest' := rfl
      exact ((trimmedLines_eq hfeed).trans (if_pos hnil)).symm
  | false =>
    have hdrop (first : List Char) :
        trimList isBlank (c :: first) = trimList isBlank first := by
      rw [trimList, List.dropWhile_cons_of_pos hc, ← trimList]
    rw [trimmedLines, trimmedLines, lineList_cons he]
    cases lineList rest with
    | nil =>
      rw [List.map_cons, List.map_nil, hdrop]
      rfl
    | cons first others => rw [List.map_cons, List.map_cons, hdrop]

theorem trimmedLines_append_of_blank (h : ∀ c ∈ space, isBlank c = true)
    (rest : List Char) :
    trimmedLines (space ++ rest) = trimmedLines rest := by
  induction space with
  | nil => rfl
  | cons c more ih =>
    rw [List.cons_append, trimmedLines_cons_of_blank (h c List.mem_cons_self)]
    exact ih fun x hx => h x (List.mem_cons_of_mem c hx)

/-- A text is unbroken, or it is a line, the end of the line, and a rest. -/
theorem unbroken_or_broken (cs : List Char) :
    (∀ c ∈ cs, isLineEnd c = false) ∨
      ∃ line e rest, cs = line ++ e :: rest ∧
        (∀ c ∈ line, isLineEnd c = false) ∧ isLineEnd e = true := by
  cases hf : cs.find? isLineEnd with
  | none =>
    refine .inl fun c hc => ?_
    simpa using List.find?_eq_none.mp hf c hc
  | some e =>
    obtain ⟨he, line, rest, hcs, hline⟩ := List.find?_eq_some_iff_append.mp hf
    refine .inr ⟨line, e, rest, hcs, fun c hc => ?_, he⟩
    simpa using hline c hc

theorem IsWord.trimList_append {word : List Char} (hw : IsWord word)
    (h : ∀ c ∈ space, isBlank c = true) :
    trimList isBlank (word ++ space) = word := by
  have hnone : ∀ c ∈ ([] : List Char), isBlank c = true := nofun
  exact Text.trimList_append hnone h hw.trimmed

theorem IsWord.append_unbroken {word : List Char} (hw : IsWord word)
    (h : ∀ c ∈ space, isLineEnd c = false) :
    ∀ c ∈ word ++ space, isLineEnd c = false := by
  intro c hc
  exact (List.mem_append.mp hc).elim (hw.unbroken c) (h c)

theorem trimmedLines_word {word : List Char} (hw : IsWord word)
    (hs : ∀ c ∈ space, isBlank c = true) (he : ∃ c ∈ space, isLineEnd c = true)
    (rest : List Char) :
    trimmedLines (word ++ (space ++ rest)) = word :: trimmedLines rest := by
  rcases unbroken_or_broken space
    with hn | ⟨before, e, after, rfl, hbefore, hend⟩
  · obtain ⟨c, hc, hce⟩ := he
    cases (hn c hc).symm.trans hce
  have hblank : ∀ c ∈ before, isBlank c = true :=
    fun c hc => hs c (List.mem_append_left _ hc)
  have hafter : ∀ c ∈ after, isBlank c = true := fun c hc =>
    hs c (List.mem_append_right _ (List.mem_cons_of_mem e hc))
  -- The first end after the word closes its line, and all that is left of the
  -- space comes after it.
  obtain ⟨rest', hrest, hl⟩ :=
    lineList_append_lineEnd (hw.append_unbroken hbefore) hend (after ++ rest)
  have hcs :
      word ++ ((before ++ e :: after) ++ rest) = word ++ before ++ e ::
      (after ++ rest) := by
    simp only [List.append_assoc, List.cons_append]
  have hsame : trimmedLines rest' = trimmedLines (after ++ rest) := by
    rcases hrest with h | h
    · rw [h]
    · rw [h, trimmedLines_cons_of_blank rfl]
  rw [hcs, trimmedLines_eq hl, hw.trimList_append hblank,
    if_neg hw.ne_nil, hsame, trimmedLines_append_of_blank hafter]

theorem trimmedLines_last {word : List Char} (hw : IsWord word)
    (hs : ∀ c ∈ space, isBlank c = true) :
    trimmedLines (word ++ space) = [word] := by
  rcases unbroken_or_broken space with hn | ⟨before, e, after, rfl, -, hend⟩
  · have hne : word ++ space ≠ [] :=
      List.append_ne_nil_of_left_ne_nil hw.ne_nil space
    rw [trimmedLines, lineList_of_unbroken hne (hw.append_unbroken hn),
      List.map_singleton, hw.trimList_append hs]
    cases word with
    | nil => exact absurd rfl hw.ne_nil
    | cons c more => rfl
  · have he : ∃ c ∈ before ++ e :: after, isLineEnd c = true :=
      ⟨e, List.mem_append_right _ List.mem_cons_self, hend⟩
    have h := trimmedLines_word hw hs he []
    rwa [List.append_nil] at h

/-- The words that a text is made of are its trimmed lines. -/
theorem WritesLines.trimmedLines_eq {words : List (List Char)}
    (h : WritesLines words cs) :
    trimmedLines cs = words := by
  induction h with
  | @blank space hs =>
    have h := trimmedLines_append_of_blank hs []
    rwa [List.append_nil] at h
  | last hl hw hs =>
    rw [trimmedLines_append_of_blank hl, trimmedLines_last hw hs]
  | more hl hw hs he _ ih =>
    rw [trimmedLines_append_of_blank hl, trimmedLines_word hw hs he, ih]

/-! ## Every text is made of words -/

theorem WritesLines.after_blank {words : List (List Char)}
    (hs : ∀ c ∈ space, isBlank c = true) (h : WritesLines words rest) :
    WritesLines words (space ++ rest) := by
  have both {lead : List Char} (hl : ∀ c ∈ lead, isBlank c = true) :
      ∀ c ∈ space ++ lead, isBlank c = true := by
    intro c hc
    exact (List.mem_append.mp hc).elim (hs c) (hl c)
  cases h with
  | blank h => exact .blank (both h)
  | last hl hw h =>
    rw [← List.append_assoc]
    exact .last (both hl) hw h
  | more hl hw h he hr =>
    rw [← List.append_assoc]
    exact .more (both hl) hw h he hr

theorem isWord_trimList (h : ∀ c ∈ line, isLineEnd c = false)
    (hne : trimList isBlank line ≠ []) :
    IsWord (trimList isBlank line) where
  ne_nil := hne
  unbroken c hc := by
    obtain ⟨lead, trail, -, -, hline⟩ := exists_trimList_append isBlank line
    refine h c ?_
    rw [hline]
    exact List.mem_append_left _ (List.mem_append_right _ hc)
  trimmed := isTrimmed_trimList isBlank line

theorem forall_isBlank_append_lineEnd (hs : ∀ c ∈ space, isBlank c = true)
    (he : isLineEnd e = true) :
    ∀ c ∈ space ++ [e], isBlank c = true := by
  intro c hc
  rcases List.mem_append.mp hc with hc | hc
  · exact hs c hc
  · obtain rfl := List.mem_singleton.mp hc
    exact isBlank_of_isLineEnd he

theorem exists_writesLines_of_unbroken (h : ∀ c ∈ line, isLineEnd c = false) :
    ∃ words, WritesLines words line := by
  by_cases ht : trimList isBlank line = []
  · exact ⟨[], .blank (trimList_eq_nil_iff.mp ht)⟩
  · obtain ⟨lead, trail, hl, htr, hline⟩ := exists_trimList_append isBlank line
    have hlast :
        WritesLines [trimList isBlank line]
        (lead ++ (trimList isBlank line ++ trail)) :=
      .last hl (isWord_trimList h ht) htr
    rw [← List.append_assoc, ← hline] at hlast
    exact ⟨_, hlast⟩

theorem WritesLines.exists_after_line {words : List (List Char)}
    (hr : WritesLines words rest) (h : ∀ c ∈ line, isLineEnd c = false)
    (he : isLineEnd e = true) :
    ∃ words', WritesLines words' (line ++ e :: rest) := by
  by_cases ht : trimList isBlank line = []
  · have hblank := forall_isBlank_append_lineEnd (trimList_eq_nil_iff.mp ht) he
    rw [← List.singleton_append, ← List.append_assoc]
    exact ⟨words, hr.after_blank hblank⟩
  · obtain ⟨lead, trail, hl, htr, hline⟩ := exists_trimList_append isBlank line
    have hclosed : ∃ c ∈ trail ++ [e], isLineEnd c = true :=
      ⟨e, List.mem_append_right _ List.mem_cons_self, he⟩
    have hmore :=
      WritesLines.more hl (isWord_trimList h ht)
      (forall_isBlank_append_lineEnd htr he) hclosed hr
    rw [← List.append_assoc, ← List.append_assoc, ← List.append_assoc, ← hline,
      List.append_assoc, List.singleton_append] at hmore
    exact ⟨_, hmore⟩

theorem exists_writesLines (cs : List Char) :
    ∃ words, WritesLines words cs := by
  -- By the length, since a whole line is taken off at once.
  induction hn : cs.length using Nat.strong_induction_on generalizing cs with
  | _ n ih =>
    rcases unbroken_or_broken cs with hu | ⟨line, e, rest, rfl, hline, he⟩
    · exact exists_writesLines_of_unbroken hu
    · have hlt : rest.length < n := by
        rw [← hn, List.length_append, List.length_cons]
        omega
      obtain ⟨words, hw⟩ := ih rest.length hlt rest rfl
      exact hw.exists_after_line hline he

/-- The trimmed lines of a text are the words that it is made of. -/
theorem trimmedLines_eq_iff {words : List (List Char)} :
    trimmedLines cs = words ↔ WritesLines words cs := by
  constructor
  · rintro rfl
    obtain ⟨words, hw⟩ := exists_writesLines cs
    rwa [hw.trimmedLines_eq]
  · exact WritesLines.trimmedLines_eq

end SingleNode.Text
