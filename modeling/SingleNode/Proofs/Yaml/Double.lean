/-
# Double-quoted text reads back

What is written in double quotes is read as it was (`readDouble_eq`), whatever
the text.  Two facts carry this.  An escape reads as the character it was made
of (`readDouble_escape`), since the hex digits of a code point have its value.
And a folded line is joined to the next one without loss
(`readDouble_foldLine`): what may stand at the front of that line is said by
`DoublePending`.
-/
import SingleNode.Proofs.Yaml.Flow

namespace SingleNode.Yaml.Reader

/-! ## Hexadecimal digits -/

theorem hexDigit?_toUpper_digitChar {d : Nat} (hd : d < 16) :
    hexDigit? d.digitChar.toUpper = some d := by
  decide +revert

/-- The number that hexadecimal digits denote, most significant first. -/
def ofHexDigits (ds : List Nat) : Nat := ds.foldl (fun n d => 16 * n + d) 0

theorem codePoint?_eq {cs : List Char} {ds : List Nat}
    (h : cs.mapM hexDigit? = some ds) (c : Char)
    (hd : ofHexDigits ds = c.toNat) : codePoint? cs = some c := by
  have hv : (ofHexDigits ds).isValidChar := hd ▸ c.valid
  simp only [codePoint?, h, Option.bind_eq_bind, Option.bind_some]
  rw [show ds.foldl (fun n d => 16 * n + d) 0 = c.toNat from hd,
    if_pos (hd ▸ hv), Char.ofNat_toNat]

theorem exists_hexDigits_toDigits (n : Nat) :
    ∃ ds, ((Nat.toDigits 16 n).map Char.toUpper).mapM hexDigit? = some ds ∧
      ofHexDigits ds = n := by
  induction n using Nat.strongRecOn with
  | ind n ih =>
    by_cases hn : n < 16
    · refine ⟨[n], ?_, by simp [ofHexDigits]⟩
      rw [Nat.toDigits_of_lt_base hn]
      simp [hexDigit?_toUpper_digitChar hn]
    · obtain ⟨ds, hds, hval⟩ := ih (n / 16) (by omega)
      refine ⟨ds ++ [n % 16], ?_, ?_⟩
      · rw [Nat.toDigits_of_base_le (by omega) (by omega), List.map_append,
          List.mapM_append, hds]
        simp [hexDigit?_toUpper_digitChar (Nat.mod_lt n (by omega : 0 < 16))]
      · rw [ofHexDigits, List.foldl_append]
        change 16 * ofHexDigits ds + n % 16 = n
        rw [hval]
        omega

theorem exists_hexDigits_hexUpper (w n : Nat) : ∃ ds,
    (Text.hexUpper w n).mapM hexDigit? = some ds ∧ ofHexDigits ds = n := by
  obtain ⟨ds, hds, hval⟩ := exists_hexDigits_toDigits n
  suffices h : ∀ k, ∃ ds,
      (List.replicate k '0' ++ (Nat.toDigits 16 n).map Char.toUpper).mapM
        hexDigit? = some ds ∧
        ofHexDigits ds = n by
    have hu :
        Text.hexUpper w n =
          List.replicate (w - (Nat.toDigits 16 n).length) '0' ++
        (Nat.toDigits 16 n).map Char.toUpper := by
      rw [Text.hexUpper, Text.hexLower, List.leftpad, List.map_append,
        List.map_replicate]
      rfl
    rw [hu]
    exact h _
  intro k
  induction k with
  | zero => exact ⟨ds, hds, hval⟩
  | succ k ih =>
    obtain ⟨ds, hds, hval⟩ := ih
    refine ⟨0 :: ds, ?_, by simpa [ofHexDigits] using hval⟩
    rw [List.replicate_succ, List.cons_append, List.mapM_cons, hds]
    rfl

theorem length_hexUpper {w n : Nat} (h : (Nat.toDigits 16 n).length ≤ w) :
    (Text.hexUpper w n).length = w := by
  rw [Text.hexUpper, Text.hexLower, List.length_map, List.leftpad,
    List.length_append, List.length_replicate]
  omega

theorem codePoint?_hexUpper (w : Nat) (c : Char) :
    codePoint? (Text.hexUpper w c.toNat) = some c := by
  obtain ⟨ds, hds, hval⟩ := exists_hexDigits_hexUpper w c.toNat
  exact codePoint?_eq hds c hval

/-! ## Steps of the reader -/

section Steps

variable (block : Nat) (gap : Gap) (rest : List Char)

theorem readDouble_space :
    readDouble block gap (' ' :: rest) = readDouble block gap.space rest := by
  rw [readDouble.eq_def]
  rfl

variable {block gap rest}

theorem readDouble_close (h : gap.allows block = true) :
    readDouble block gap ('"' :: rest) = some (gap.text, rest) := by
  rw [readDouble.eq_def]
  simp [h]

theorem readDouble_content {c : Char} (h : gap.allows block = true)
    (hv : isVerbatim c = true) (hs : c ≠ ' ') :
    readDouble block gap (c :: rest) =
      prepend (gap.text ++ [c]) (readDouble block (.spaces 0) rest) := by
  simp only [isVerbatim, Bool.and_eq_true, bne_iff_ne, ne_eq] at hv
  obtain ⟨⟨hp, hq⟩, hb⟩ := hv
  have hn : c ≠ '\n' := by
    rintro rfl
    exact absurd hp (by decide)
  have hp' : isPrintable c = true := hp
  rw [readDouble.eq_def]
  simp [h, hs, hn, hq, hb, hp']

theorem readDouble_letter {letter c : Char} (h : gap.allows block = true)
    (hl : shortEscapes.lookup letter = some c)
    (hne : letter ∉ ['\n', 'x', 'u', 'U']) :
    readDouble block gap ('\\' :: letter :: rest) =
      prepend (gap.text ++ [c]) (readDouble block (.spaces 0) rest) := by
  simp only [List.mem_cons, List.not_mem_nil, or_false, not_or] at hne
  obtain ⟨h1, h2, h3, h4⟩ := hne
  rw [readDouble.eq_def]
  simp [h, h2, h3, h4, hl, prependEscaped]

theorem readDouble_escape (h : gap.allows block = true) (c : Char) :
    readDouble block gap (escape c ++ rest) =
      prepend (gap.text ++ [c]) (readDouble block (.spaces 0) rest) := by
  have known :
      ∀ p ∈ "\x00\x07\x08\t\n\x0b\x0c\r\x1b\"\\\x85\xa0\u2028\u2029".toList.zip
      "0abtnvfre\"\\N_LP".toList,
      shortEscapes.lookup p.2 = some p.1 ∧ p.2 ∉ ['\n', 'x', 'u', 'U'] := by
        decide
  have digits (w : Nat) := codePoint?_hexUpper w c
  have short (w : Nat) (hw : 0 < w) (hc : c.toNat < 16 ^ w) :
      (Nat.toDigits 16 c.toNat).length ≤ w :=
        (Nat.length_toDigits_le_iff (by decide) hw).mpr hc
  rw [escape]
  split
  · rename_i letter hl
    obtain ⟨p, hp, rfl⟩ := Option.map_eq_some_iff.mp hl
    obtain rfl : p.1 = c := by simpa using List.find?_some hp
    obtain ⟨hlook, hne⟩ := known p (List.mem_of_find?_eq_some hp)
    exact readDouble_letter h hlook hne
  · dsimp only
    split
    · have hlen := length_hexUpper (short 2 (by decide) (by omega))
      match hx : Text.hexUpper 2 c.toNat, hlen with
      | [a, b], _ =>
        have hd := hx ▸ digits 2
        rw [readDouble.eq_def]
        simp [h, hd, prependEscaped]
    · split
      · have hlen := length_hexUpper (short 4 (by decide) (by omega))
        match hx : Text.hexUpper 4 c.toNat, hlen with
        | [a, b, d, e], _ =>
          have hd := hx ▸ digits 4
          rw [readDouble.eq_def]
          simp [h, hd, prependEscaped]
      · have hv : c.toNat < 0xD800 ∨ 0xDFFF < c.toNat ∧ c.toNat < 0x110000 :=
          c.valid
        have hlen := length_hexUpper (short 8 (by decide) (by omega))
        match hx : Text.hexUpper 8 c.toNat, hlen with
        | [a, b, d, e, f, g, i, j], _ =>
          have hd := hx ▸ digits 8
          rw [readDouble.eq_def]
          simp [h, hd, prependEscaped]

/-- A folded line is joined to the next one. -/
theorem readDouble_foldLine (h : gap.allows block = true) (indent : Nat)
    (beforeSpace : Bool) :
    readDouble block gap (foldLine indent beforeSpace ++ rest) =
      prepend gap.text (readDouble block (.joined 0 indent)
        ((if beforeSpace then ['\\'] else []) ++ rest)) := by
  have hj : readDouble block gap ('\\' :: '\n' :: (List.replicate indent ' ' ++
      ((if beforeSpace then ['\\'] else []) ++ rest))) =
        prepend gap.text
          (readDouble block (.joined 0 0) (List.replicate indent ' ' ++
          ((if beforeSpace then ['\\'] else []) ++ rest))) := by
    rw [readDouble.eq_def]
    simp [h]
  rw [read_replicate (readDouble_space block), Gap.widen, Nat.zero_add] at hj
  rw [← hj, foldLine, newLine]
  simp

end Steps

/-! ## Text in double quotes -/

/-- What is kept back when the text `cs` is still to come at a column, and what
stands in front of it: a line that starts with a space has a backslash there,
and is not folded before that space. -/
inductive DoublePending (indent column : Nat) (cs : List Char) :
    List Char → Gap → Prop
  | spaces (n : Nat) : DoublePending indent column cs [] (.spaces n)
  | joined : cs.head?.any (· = ' ') = false →
      DoublePending indent column cs [] (.joined 0 indent)
  | escaped : cs.head?.any (· = ' ') = true → column ≤ width →
      DoublePending indent column cs ['\\'] (.joined 0 indent)

theorem DoublePending.allows {block indent column : Nat} {cs front : List Char}
    {gap : Gap} (hi : block < indent)
    (h : DoublePending indent column cs front gap) :
    gap.allows block = true := by
  cases h with
  | spaces n => rfl
  | joined | escaped => exact decide_eq_true hi

/-- A folded line is followed by what may follow it. -/
theorem DoublePending.of_foldLine {indent : Nat} (hw : indent < width)
    (cs : List Char) :
    DoublePending indent (foldColumn indent (cs.head?.any (· = ' '))) cs
      (if cs.head?.any (· = ' ') then ['\\'] else []) (.joined 0 indent) := by
  by_cases h : cs.head?.any (· = ' ') = true
  · rw [h]
    exact .escaped h hw
  · rw [Bool.eq_false_iff.mpr h]
    exact .joined (Bool.eq_false_iff.mpr h)

/-- The first character of a line, which has a backslash in front of it if it is
a space. -/
theorem readDouble_lineStart {block indent : Nat} (hi : block < indent)
    {c : Char} (hv : isVerbatim c = true) (rest : List Char) :
    readDouble block (.joined 0 indent)
      ((if c = ' ' then ['\\'] else []) ++ c :: rest) =
      prepend [c] (readDouble block (.spaces 0) rest) := by
  have ha : (Gap.joined 0 indent).allows block = true := decide_eq_true hi
  by_cases hs : c = ' '
  · subst hs
    exact readDouble_letter ha rfl (by decide)
  · rw [if_neg hs]
    exact readDouble_content ha hv hs

/-- What is still to be written reads as it was, whatever was kept back. -/
def DoubleReads (block indent : Nat) (tail cs : List Char) : Prop :=
  ∀ ⦃column : Nat⦄ ⦃atStart fresh : Bool⦄ ⦃front : List Char⦄ ⦃gap : Gap⦄,
    DoublePending indent column cs front gap →
    readDouble block gap
      (front ++ doubleBody indent column atStart fresh cs ++ '"' :: tail) =
      some (gap.text ++ cs, tail)

namespace DoubleReads

variable {block indent : Nat} {tail rest : List Char}

theorem nil (hi : block < indent) : DoubleReads block indent tail [] := by
  intro column atStart fresh front gap hg
  have ha := hg.allows hi
  cases hg with
  | spaces | joined =>
    rw [List.append_nil]
    exact readDouble_close ha
  | escaped h => cases h

/-- A character that is not escaped. A line that ends in front of it is joined
to the next one, which has a backslash at its front if the character is a
space. -/
theorem verbatim (hi : block < indent) {c : Char} (hv : isVerbatim c = true)
    (next : DoubleReads block indent tail rest) :
    DoubleReads block indent tail (c :: rest) := by
  intro column atStart fresh front gap hg
  have ha := hg.allows hi
  have after {column : Nat} (n : Nat) :
      readDouble block (.spaces n)
        (doubleBody indent column false false rest ++ '"' :: tail) =
        some (List.replicate n ' ' ++ rest, tail) := next (.spaces n)
  rw [doubleBody]
  dsimp only
  rw [if_pos hv]
  split
  · rename_i hfold
    have hf : front = [] := by
      cases hg with
      | spaces | joined => rfl
      | escaped _ hcol =>
        simp only [Bool.and_eq_true, decide_eq_true_eq] at hfold
        omega
    rw [hf, List.nil_append, List.append_assoc, readDouble_foldLine ha]
    simp only [decide_eq_true_eq]
    rw [List.cons_append, readDouble_lineStart hi hv, after]
    simp [prepend]
  · by_cases hs : c = ' '
    · subst hs
      cases hg with
      | spaces n =>
        rw [List.nil_append, List.cons_append, readDouble_space]
        refine (after (n + 1)).trans ?_
        rw [Gap.text, List.replicate_succ', List.append_assoc]
        rfl
      | joined h => cases h
      | escaped =>
        refine (readDouble_lineStart hi hv
          (doubleBody indent (column + 1) false false rest ++ '"' ::
            tail)).trans ?_
        rw [after]
        rfl
    · cases hg with
      | spaces | joined =>
        rw [List.nil_append, List.cons_append,
          readDouble_content ha hv hs, after]
        simp [prepend, Gap.text]
      | escaped h => exact absurd (by simpa using h) hs

/-- A character that is escaped. A line may end behind it. -/
theorem escaped (hi : block < indent) (hw : indent < width) {c : Char}
    (hv : isVerbatim c = false) (next : DoubleReads block indent tail rest) :
    DoubleReads block indent tail (c :: rest) := by
  intro column atStart fresh front gap hg
  have ha := hg.allows hi
  have hs : c ≠ ' ' := by
    rintro rfl
    cases hv
  rw [doubleBody]
  dsimp only
  rw [if_neg (Bool.eq_false_iff.mp hv)]
  cases hg with
  | escaped h => exact absurd (by simpa using h) hs
  | spaces | joined =>
    split
    · rw [List.nil_append, List.append_assoc, List.append_assoc,
        readDouble_escape ha, readDouble_foldLine rfl, ← List.append_assoc,
          next (.of_foldLine hw rest)]
      simp [prepend, Gap.text]
    · have after :=
        @next (column + (escape c).length) false true [] _ (.spaces 0)
      rw [List.nil_append] at after
      rw [List.nil_append, List.append_assoc, readDouble_escape ha, after]
      simp [prepend, Gap.text]

end DoubleReads

/-- What is still to be written in double quotes reads as it was, behind what
was kept back. -/
theorem doubleReads {block indent : Nat} (hi : block < indent)
    (hw : indent < width) (tail cs : List Char) :
    DoubleReads block indent tail cs := by
  induction cs with
  | nil => exact .nil hi
  | cons c rest ih =>
    by_cases hv : isVerbatim c = true
    · exact .verbatim hi hv ih
    · exact .escaped hi hw (Bool.eq_false_iff.mpr hv) ih

/-- What is written in double quotes reads as it was. -/
theorem readDouble_eq {block indent : Nat} (hi : block < indent)
    (hw : indent < width) (column : Nat) (cs tail : List Char) :
    readDouble block (.spaces 0)
      (doubleBody indent column true true cs ++ '"' :: tail) =
      some (cs, tail) :=
  doubleReads hi hw tail cs (.spaces 0)

end SingleNode.Yaml.Reader
