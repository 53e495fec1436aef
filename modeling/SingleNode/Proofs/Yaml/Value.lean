/-
# Values read back

A text is read as it was, whatever it is, on the line of its key or its dash
(`readValue_scalar`), and so is a whole number (`readValue_toString`).  What
follows must tell the reader where the scalar ends: the next line is not
indented more than the block in which the scalar stands (`Within`).
-/
import SingleNode.Proofs.Yaml.Double
import SingleNode.Proofs.Yaml.Plain
import SingleNode.Proofs.Yaml.Reader
import SingleNode.Proofs.Yaml.Resolution
import SingleNode.Proofs.Yaml.Single

namespace SingleNode.Yaml.Reader

/-! ## The lines that follow -/

/-- The text goes on at the given column at most. -/
def Within (column : Nat) (tail : List Char) : Prop :=
  ∀ k, nextColumn 0 tail = some k → k ≤ column

theorem within_nil (column : Nat) : Within column [] := fun _ h => nomatch h

theorem within_replicate {c : Char} (hc : isBlank c = false) (n : Nat)
    (rest : List Char) :
    Within n (List.replicate n ' ' ++ c :: rest) := by
  intro k hk
  rw [nextColumn_replicate hc, Nat.zero_add] at hk
  exact (Option.some.inj hk).ge

theorem Within.mono {m n : Nat} (h : m ≤ n) {tail : List Char}
    (ht : Within m tail) :
    Within n tail := fun k hk => (ht k hk).trans h

theorem Within.stops {block : Nat} {tail : List Char} (h : Within block tail) :
    Stops (some block) ('\n' :: tail) := by
  refine stops_newLine ?_
  unfold continues
  cases hk : nextColumn 0 tail with
  | none => rfl
  | some k => exact decide_eq_false (Nat.not_lt.mpr (h k hk))

theorem lineAt_replicate {c : Char} (hc : isBlank c = false) (n : Nat)
    (rest : List Char) :
    lineAt n (List.replicate n ' ' ++ c :: rest) = some (c :: rest) := by
  induction n with
  | zero => simp [lineAt, hc]
  | succ n ih =>
    rw [List.replicate_succ, List.cons_append, lineAt, if_pos rfl, ih]

theorem nextColumn_of_lineAt {n column : Nat} {tail body : List Char}
    (h : lineAt n tail = some body) :
    nextColumn column tail = some (column + n) := by
  induction n generalizing column tail with
  | zero =>
    cases tail with
    | nil => cases h
    | cons c tail =>
      rw [lineAt] at h
      split at h
      · cases h
      · rename_i hc
        exact nextColumn_replicate (Bool.eq_false_iff.mpr hc) tail 0 column
  | succ n ih =>
    cases tail with
    | nil => cases h
    | cons c tail =>
      rw [lineAt] at h
      split at h
      · rename_i hc
        rw [nextColumn, if_pos hc, ih h, Nat.add_right_comm, Nat.add_assoc]
      · cases h

theorem Within.lineAt_eq_none {m n : Nat} {tail : List Char} (h : Within m tail)
    (hn : m < n) :
    lineAt n tail = none := by
  cases hl : lineAt n tail with
  | none => rfl
  | some body =>
    have hk := h _ (nextColumn_of_lineAt hl)
    omega

/-! ## Texts -/

theorem styleOf_cases (cs : List Char) :
    (styleOf cs = .plain ∧ allowsPlain cs = true ∧
      readsAsOther cs = false ∧ cs ≠ []) ∨
      (styleOf cs = .single ∧ allowsSingle cs = true) ∨
      styleOf cs = .double := by
  rw [styleOf]
  split
  · rename_i h
    simp only [Bool.and_eq_true, Bool.not_eq_eq_eq_not, Bool.not_true] at h
    refine .inl ⟨rfl, h.1, h.2, ?_⟩
    rintro rfl
    exact absurd h.2 (by decide)
  · split
    · rename_i h
      exact .inr (.inl ⟨rfl, h⟩)
    · exact .inr (.inr rfl)

theorem readScalar_plain {block : Nat} {cs text rest : List Char} {value : Node}
    (hs : startsPlain cs = true)
    (hr : readPlain (some block) (.spaces 0) cs = some (text, rest))
    (hv : resolve text = some value) :
    readScalar block cs = some (value, rest) := by
  unfold readScalar
  split
  case h_1 | h_2 | h_3 | h_4 => cases hs
  case h_5 => simp [hs, hr, hv]

theorem readValue_of_readScalar {block : Nat} {cs rest : List Char}
    {value : Node} (h : readScalar block cs = some (value, '\n' :: rest)) :
    readValue block cs = some (value, rest) := by
  rw [readValue, h]
  rfl

/-- A text is read as it was, whatever it is. -/
theorem readValue_scalar {block : Nat} (hb : block + 2 < width) (column : Nat)
    (cs : List Char) {tail : List Char} (ht : Within block tail) :
    readValue block (scalar (block + 2) column cs ++ '\n' :: tail) =
      some (.text (String.ofList cs), tail) := by
  have hi : block < block + 2 := by omega
  refine readValue_of_readScalar ?_
  rcases styleOf_cases cs with ⟨hs, hp, ho, hne⟩ | ⟨hs, hp⟩ | hs
  · have hread :=
      readPlain_eq ht.stops (fun _ => ⟨block, rfl, hi⟩)
      (of_allowsPlain hp).1 column
    simp only [scalar, hs]
    exact readScalar_plain (startsPlain_plainBody hp hne _ _ (by simp)) hread
      (resolve_of_not_other ho)
  · have hq : ('\n' :: tail).head? ≠ some '\'' := by simp
    simp only [scalar, hs, List.cons_append, List.append_assoc, List.nil_append]
    rw [readScalar, readSingle_eq hi (column + 1) hp hq]
    rfl
  · simp only [scalar, hs, List.cons_append, List.append_assoc, List.nil_append]
    rw [readScalar, readDouble_eq hi hb (column + 1) cs]
    rfl

/-! ## Whole numbers -/

theorem mem_digits_of_isDigit {c : Char} (h : isDigit c = true) :
    c ∈ digits := by
  have chars : ∀ n ≤ 0x39, 0x30 ≤ n → Char.ofNat n ∈ digits := by decide
  simp only [isDigit, Text.asciiDigit?, Bool.and_eq_true,
    decide_eq_true_eq] at h
  split at h
  · rename_i hc
    rw [← Char.ofNat_toNat c]
    exact chars _ hc.2 hc.1
  · cases h

theorem hasInnerMark_of_forall {cs : List Char}
    (h : ∀ c ∈ cs, c ≠ ':' ∧ c ≠ '#') (before : Char) :
    hasInnerMark before cs = false := by
  induction cs generalizing before with
  | nil => rfl
  | cons c rest ih =>
    obtain ⟨⟨hcolon, hhash⟩, hrest⟩ := List.forall_mem_cons.mp h
    rw [hasInnerMark, ih hrest c, decide_eq_false hcolon, decide_eq_false hhash]
    rfl

theorem toString_chars (n : Int) :
    ∀ c ∈ (toString n).toList, c = '-' ∨ c ∈ digits := by
  intro c hc
  cases n with
  | ofNat m =>
    rw [toList_toString_ofNat] at hc
    exact .inr (mem_digits_of_isDigit (isDigit_of_mem_toDigits hc))
  | negSucc m =>
    rw [toList_toString_negSucc] at hc
    exact (List.mem_cons.mp hc).imp_right fun h =>
      mem_digits_of_isDigit (isDigit_of_mem_toDigits h)

theorem not_isPrefixOf {a d : Char} {w rest : List Char} (h : a ≠ d) :
    (a :: w).isPrefixOf (d :: rest) = false := by
  rw [List.isPrefixOf_cons_cons, beq_false_of_ne h, Bool.false_and]

theorem startsPlain_toString (n : Int) (tail : List Char) :
    startsPlain ((toString n).toList ++ tail) = true := by
  have first : ∀ d ∈ digits, isPrintable d = true ∧ d ≠ ' ' ∧
    indicators.contains d = false ∧
      d ≠ '-' ∧ d ≠ '.' ∧ isBlank d = false := forall_mem_of_all (by decide)
  have head (m : Nat) : ∃ d ds, Nat.toDigits 10 m = d :: ds ∧ d ∈ digits := by
    obtain ⟨d, ds, hd⟩ :=
      List.exists_cons_of_ne_nil (Nat.toDigits_ne_nil (n := m) (b := 10))
    exact ⟨d, ds, hd,
      mem_digits_of_isDigit (isDigit_of_mem_toDigits (hd ▸ List.mem_cons_self))⟩
  cases n with
  | ofNat m =>
    obtain ⟨d, ds, hm, hd⟩ := head m
    obtain ⟨hp, hs, hi, hdash, hdot, hb⟩ := first d hd
    have h1 : ['-', '-', '-'].isPrefixOf (d :: (ds ++ tail)) = false :=
      not_isPrefixOf hdash.symm
    have h2 : ['.', '.', '.'].isPrefixOf (d :: (ds ++ tail)) = false :=
      not_isPrefixOf hdot.symm
    rw [toList_toString_ofNat, hm, List.cons_append, startsPlain,
      hp, hi, h1, h2]
    simpa using hs
  | negSucc m =>
    obtain ⟨d, ds, hm, hd⟩ := head (m + 1)
    obtain ⟨hp, hs, hi, hdash, hdot, hb⟩ := first d hd
    have h1 : ['-', '-'].isPrefixOf (d :: (ds ++ tail)) = false :=
      not_isPrefixOf hdash.symm
    have h2 : ['.', '.', '.'].isPrefixOf ('-' :: d :: (ds ++ tail)) = false :=
      not_isPrefixOf (by decide)
    rw [toList_toString_negSucc, hm, List.cons_append, List.cons_append,
      startsPlain, h2,
      List.isPrefixOf_cons_cons, h1, List.head?_cons, Option.any_some, hb]
    rfl

/-- A whole number is read as it was. -/
theorem readValue_toString (block : Nat) (n : Int) {tail : List Char}
    (ht : Within block tail) :
    readValue block ((toString n).toList ++ '\n' :: tail) =
      some (.integer n, tail) := by
  have chars : ∀ c ∈ '-' :: digits, isPrintable c = true ∧ c ≠ ' ' ∧
      c ≠ ':' ∧ c ≠ '#' :=
    forall_mem_of_all (by decide)
  have hn (c : Char) (hc : c ∈ (toString n).toList) :=
    chars c (List.mem_cons.mpr (toString_chars n c hc))
  have hspace : ' ' ∉ (toString n).toList := fun h => (hn _ h).2.1 rfl
  have hcs : PlainRest ' ' (toString n).toList := by
    refine ⟨fun c hc => (hn c hc).1, ?_, fun h =>
      hspace (List.mem_of_getLast? h)⟩
    exact hasInnerMark_of_forall (fun c hc => (hn c hc).2.2) ' '
  have hread := readPlain_line ht.stops hspace hcs
  exact readValue_of_readScalar
    (readScalar_plain (startsPlain_toString n _) hread (resolve_toString n))

end SingleNode.Yaml.Reader
