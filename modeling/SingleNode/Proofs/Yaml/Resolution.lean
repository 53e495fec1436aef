/-
# What stands plain is text

No text that stands plain has the form of another type (`readsAsOther_of_mem`),
since the writer knows all the forms: each part of this module takes one of its
checks and follows the regular expressions that it stands for.  So such a text
resolves to itself (`resolve_of_not_other`), and a whole number to itself
(`resolve_toString`).
-/
import Mathlib.Data.List.TakeWhile
import SingleNode.Proofs.Yaml.Forms

namespace SingleNode.Yaml.Reader

open RegularExpression (char star)

/-! ## Digits -/

theorem isDigit_of_mem {c : Char} (h : c ∈ digits) : isDigit c = true :=
  forall_mem_of_all (p := fun c => isDigit c = true) (by decide) c h

theorem isDigitLike_of_mem {c : Char} (h : c ∈ digitLikes) :
    isDigitLike c = true :=
  forall_mem_of_all (p := fun c => isDigitLike c = true) (by decide) c h

theorem dropWhile_append_of_head {p : Char → Bool} {ds tail : List Char}
    (hd : ∀ c ∈ ds, p c = true) (ht : tail.head?.any p = false) :
    (ds ++ tail).dropWhile p = tail := by
  rw [List.dropWhile_append_of_pos hd]
  cases tail with
  | nil => rfl
  | cons c tail => exact List.dropWhile_cons_of_neg (by simpa using ht)

/-! ## Numbers -/

theorem exists_sign {r : RegularExpression Char} {cs : List Char}
    (h : cs ∈ (sequence [maybe sign, r]).matches') :
    ∃ s x, cs = s ++ x ∧ s ∈ [[], ['-'], ['+']] ∧ x ∈ r.matches' := by
  have signs : ∀ c ∈ ['-', '+'], [c] ∈ [[], ['-'], ['+']] :=
    forall_mem_of_all (by decide)
  simp only [mem_sequence_cons, mem_sequence_nil] at h
  obtain ⟨s, hs, _, ⟨x, hx, _, rfl, rfl⟩, rfl⟩ := h
  refine ⟨s, x, by rw [List.append_nil], ?_, hx⟩
  rcases mem_maybe.mp hs with hs | rfl
  · obtain ⟨c, hc, rfl⟩ := mem_oneOf.mp hs
    exact signs c hc
  · exact List.mem_cons_self

theorem dropSign_append {s x : List Char} (hs : s ∈ [[], ['-'], ['+']])
    (hx : x.head?.any (fun c => isDigit c || c = '.') = true) :
    dropSign (s ++ x) = x := by
  simp only [List.mem_cons, List.not_mem_nil, or_false] at hs
  rcases hs with rfl | rfl | rfl
  · cases x with
    | nil => rfl
    | cons c x =>
      have hp : c ≠ '+' := by rintro rfl; cases hx
      have hm : c ≠ '-' := by rintro rfl; cases hx
      simp [dropSign, hp, hm]
  · rfl
  · rfl

theorem isSexagesimalTail_flatten {parts : List (List Char)} (hne : parts ≠ [])
    (h : ∀ x ∈ parts, x ∈ sexagesimalPart.matches') :
    isSexagesimalTail parts.flatten = true := by
  have tens : ∀ c ∈ "012345".toList, ('0' ≤ c && c ≤ '5') = true :=
    forall_mem_of_all (by decide)
  induction parts with
  | nil => exact absurd rfl hne
  | cons x parts ih =>
    obtain ⟨hx, hparts⟩ := List.forall_mem_cons.mp h
    have hrest : parts.flatten = [] ∨
        (∃ rest, parts.flatten = ':' :: rest) ∧
          isSexagesimalTail parts.flatten = true := by
      cases parts with
      | nil => exact .inl rfl
      | cons y parts =>
        refine .inr ⟨?_, ih (List.cons_ne_nil y parts) hparts⟩
        obtain ⟨_, rfl, y, -, rfl⟩ :=
          mem_sequence_cons.mp (hparts y List.mem_cons_self)
        exact ⟨_, rfl⟩
    simp only [sexagesimalPart, mem_sequence_cons, mem_sequence_nil, mem_char,
      mem_maybe, mem_oneOf]
      at hx
    obtain ⟨_, rfl, _, ⟨_, ht, _, ⟨_, ⟨d, hd, rfl⟩, _, rfl, rfl⟩, rfl⟩, rfl⟩ :=
      hx
    have hd := isDigit_of_mem hd
    rw [List.flatten_cons]
    rcases ht with ⟨t, ht, rfl⟩ | rfl
    · have ht := tens t ht
      simp only [Bool.and_eq_true] at ht
      simp only [List.cons_append, List.nil_append, isSexagesimalTail,
        hd, if_true, ht]
      rcases hrest with hp | ⟨-, hp⟩
      · rw [hp]
        rfl
      · rw [hp]
        simp
    · rcases hrest with hp | ⟨⟨rest, hr⟩, hp⟩
      · rw [hp]
        exact hd
      · rw [hr] at hp ⊢
        have hc : isDigit ':' = false := by decide
        simp only [List.cons_append, List.nil_append, isSexagesimalTail, hc, hd]
        simpa using hp

theorem not_point_of_mem {x : List Char} (h : x ∈ sexagesimalPart.matches') :
    ∀ c ∈ x, c ≠ '.' := by
  have tens : ∀ c ∈ "012345".toList, c ≠ '.' := forall_mem_of_all (by decide)
  have ones : ∀ c ∈ digits, c ≠ '.' := forall_mem_of_all (by decide)
  simp only [sexagesimalPart, mem_sequence_cons, mem_sequence_nil, mem_char,
    mem_maybe, mem_oneOf]
    at h
  obtain ⟨_, rfl, _, ⟨_, ht, _, ⟨_, ⟨d, hd, rfl⟩, _, rfl, rfl⟩, rfl⟩, rfl⟩ := h
  rcases ht with ⟨t, ht, rfl⟩ | rfl
  · simp [tens t ht, ones d hd]
  · simp [ones d hd]

/-- The parts in base sixty start with a colon, and have no point in them. -/
theorem of_mem_sexagesimal {x : List Char} (h : x ∈ sexagesimal.matches') :
    isSexagesimalTail x = true ∧ (∃ y, x = ':' :: y) ∧ ∀ c ∈ x, c ≠ '.' := by
  obtain ⟨a, ha, b, hb, rfl⟩ := Language.mem_mul.mp h
  obtain ⟨parts, rfl, hparts⟩ := Language.mem_kstar.mp hb
  have hall := List.forall_mem_cons.mpr ⟨ha, hparts⟩
  refine ⟨isSexagesimalTail_flatten (List.cons_ne_nil a parts) hall, ?_, ?_⟩
  · obtain ⟨_, rfl, y, -, rfl⟩ := mem_sequence_cons.mp ha
    exact ⟨_, rfl⟩
  · intro c hc
    obtain ⟨part, hpart, hc⟩ :=
      List.mem_flatten.mp (show c ∈ (a :: parts).flatten from hc)
    exact not_point_of_mem (hall part hpart) c hc

theorem isIntegerLike_decimal {cs rest : List Char} {c : Char}
    (h : dropSign cs = c :: rest) (hc : isDigit c = true) (h0 : c ≠ '0') :
    isIntegerLike cs =
      ((rest.dropWhile isDigitLike).isEmpty ||
        isSexagesimalTail (rest.dropWhile isDigitLike)) := by
  rw [isIntegerLike, h]
  simp [h0, hc]

theorem isIntegerLike_of_mem {r : RegularExpression Char}
    (hr : r ∈ integerForms) {cs : List Char}
    (h : cs ∈ (sequence [maybe sign, r]).matches') :
    isIntegerLike cs = true := by
  have binary : ∀ c ∈ "01_".toList, (c = '0' || c = '1' || c = '_') = true :=
    forall_mem_of_all (by decide)
  have octal :
      ∀ c ∈ "01234567_".toList, (('0' ≤ c && c ≤ '7') || c = '_') = true :=
    forall_mem_of_all (by decide)
  have hexadecimal : ∀ c ∈ "0123456789abcdefABCDEF_".toList,
      (isDigitLike c || ('a' ≤ c && c ≤ 'f') || ('A' ≤ c && c ≤ 'F')) = true :=
      forall_mem_of_all (by decide)
  have nonzero : ∀ c ∈ "123456789".toList, isDigit c = true ∧ c ≠ '0' :=
    forall_mem_of_all (by decide)
  obtain ⟨s, x, rfl, hs, hx⟩ := exists_sign h
  simp only [integerForms, List.mem_cons, List.not_mem_nil, or_false] at hr
  rcases hr with rfl | rfl | rfl | rfl | rfl | rfl
  all_goals simp only [mem_sequence_cons, mem_sequence_nil, mem_char,
    mem_oneOf] at hx
  · obtain ⟨_, rfl, _, ⟨_, rfl, _, ⟨_, hb, _, rfl, rfl⟩, rfl⟩, rfl⟩ := hx
    obtain ⟨c, ds, rfl, hds⟩ := exists_of_mem_many hb
    rw [isIntegerLike, dropSign_append hs rfl, List.append_nil]
    exact List.all_eq_true.mpr fun d hd => binary d (hds d hd)
  · obtain ⟨_, rfl, _, ⟨_, hb, _, rfl, rfl⟩, rfl⟩ := hx
    obtain ⟨c, ds, rfl, hds⟩ := exists_of_mem_many hb
    have hc : c ≠ 'b' ∧ c ≠ 'x' := by
      constructor
      all_goals
        rintro rfl
        exact absurd (hds _ List.mem_cons_self) (by decide)
    have hall := List.all_eq_true.mpr fun d hd => octal d (hds d hd)
    rw [isIntegerLike, dropSign_append hs rfl, List.append_nil]
    simpa [hc.1, hc.2] using hall
  · subst hx
    rw [isIntegerLike, dropSign_append hs rfl]
    rfl
  · obtain ⟨_, ⟨c, hc, rfl⟩, _, ⟨ds, hds, _, rfl, rfl⟩, rfl⟩ := hx
    obtain ⟨hc, h0⟩ := nonzero c hc
    have hds := mem_of_mem_star hds
    have hd : (ds ++ []).dropWhile isDigitLike = [] :=
      dropWhile_append_of_head (fun d hd => isDigitLike_of_mem (hds d hd)) rfl
    have hx : dropSign (s ++ ([c] ++ (ds ++ []))) = c :: (ds ++ []) :=
      dropSign_append hs (by simp [hc])
    rw [isIntegerLike_decimal hx hc h0, hd]
    rfl
  · obtain ⟨_, rfl, _, ⟨_, rfl, _, ⟨_, hb, _, rfl, rfl⟩, rfl⟩, rfl⟩ := hx
    obtain ⟨c, ds, rfl, hds⟩ := exists_of_mem_many hb
    rw [isIntegerLike, dropSign_append hs rfl, List.append_nil]
    exact List.all_eq_true.mpr fun d hd => hexadecimal d (hds d hd)
  · obtain ⟨_, ⟨c, hc, rfl⟩, _, ⟨ds, hds, _, ⟨tail, ht, _, rfl, rfl⟩, rfl⟩,
      rfl⟩ := hx
    obtain ⟨hc, h0⟩ := nonzero c hc
    obtain ⟨ht, ⟨y, rfl⟩, -⟩ := of_mem_sexagesimal ht
    have hds := mem_of_mem_star hds
    have hd : (ds ++ ':' :: y).dropWhile isDigitLike = ':' :: y :=
      dropWhile_append_of_head (fun d hd => isDigitLike_of_mem (hds d hd)) rfl
    have hx :
        dropSign (s ++ ([c] ++ (ds ++ ':' :: y))) = c :: (ds ++ ':' :: y) :=
      dropSign_append hs (by simp [hc])
    rw [List.append_nil, isIntegerLike_decimal hx hc h0, hd, ht, Bool.or_true]

/-! ## Numbers with a point -/

theorem isExponentEnd_of_mem {x : List Char}
    (h : x ∈ (maybe exponent).matches') :
    isExponentEnd x = true ∧ x.head?.any isDigitLike = false := by
  rcases mem_maybe.mp h with h | rfl
  · have marks : ∀ e ∈ ['e', 'E'], (e = 'e' || e = 'E') = true ∧
        isDigitLike e = false :=
      forall_mem_of_all (by decide)
    have signs : ∀ s ∈ ['-', '+'], (s = '+' || s = '-') = true :=
      forall_mem_of_all (by decide)
    simp only [exponent, sign, mem_sequence_cons, mem_sequence_nil,
      mem_oneOf] at h
    obtain ⟨_, ⟨e, he, rfl⟩, _,
      ⟨_, ⟨s, hs, rfl⟩, _, ⟨_, hds, _, rfl, rfl⟩, rfl⟩, rfl⟩ := h
    obtain ⟨d, ds, rfl, hd⟩ := exists_of_mem_many hds
    obtain ⟨he, hed⟩ := marks e he
    have hall : (d :: ds).all isDigit = true :=
      List.all_eq_true.mpr fun d hmem => isDigit_of_mem (hd d hmem)
    refine ⟨?_, hed⟩
    change ((e = 'e' || e = 'E') && (s = '+' || s = '-') && isDigit d &&
      (ds ++ []).all isDigit) = true
    rw [he, signs s hs, List.append_nil]
    exact hall
  · exact ⟨rfl, rfl⟩

theorem isFraction_of_mem {x y : List Char}
    (hx : x ∈ (star (oneOf digitLikes)).matches')
    (hy : y ∈ (maybe exponent).matches') : isFraction (x ++ y) = true := by
  obtain ⟨hy, hhead⟩ := isExponentEnd_of_mem hy
  have hx := mem_of_mem_star hx
  rw [isFraction,
    dropWhile_append_of_head (fun d hd => isDigitLike_of_mem (hx d hd)) hhead]
  exact hy

theorem isSexagesimalReal_of_mem {x y : List Char}
    (hx : x ∈ sexagesimal.matches')
    (hy : y ∈ (star (oneOf digitLikes)).matches') :
    isSexagesimalReal (x ++ '.' :: y) = true := by
  obtain ⟨hparts, -, hpoint⟩ := of_mem_sexagesimal hx
  have hy := mem_of_mem_star hy
  have hspan : (x ++ '.' :: y).span (· != '.') = (x, '.' :: y) := by
    rw [List.span_eq_takeWhile_dropWhile,
      dropWhile_append_of_head (by simpa using hpoint) rfl,
      List.takeWhile_append_of_pos (by simpa using hpoint)]
    simp
  rw [isSexagesimalReal, hspan]
  simp only [hparts, Bool.true_and]
  exact List.all_eq_true.mpr fun d hd => isDigitLike_of_mem (hy d hd)

theorem isRealLike_of_dropSign {cs rest tail : List Char} {d : Char}
    (h : dropSign cs = d :: rest) (hd : isDigit d = true)
    (hrest : rest.dropWhile isDigitLike = tail)
    (ht : (∃ y, tail = '.' :: y ∧ isFraction y = true) ∨
      (∃ y, tail = ':' :: y ∧ isSexagesimalReal tail = true)) : isRealLike cs =
        true := by
  unfold isRealLike
  rw [h]
  rcases ht with ⟨y, hy, hf⟩ | ⟨y, hy, hf⟩
  · simp [hd, hrest, hy, hf]
  · rw [hy] at hf
    simp [hd, hrest, hy, hf]

theorem isRealLike_of_mem {r : RegularExpression Char} (hr : r ∈ realForms)
    {cs : List Char} (h : cs ∈ (sequence [maybe sign, r]).matches') :
    isRealLike cs = true := by
  obtain ⟨s, x, rfl, hs, hx⟩ := exists_sign h
  simp only [realForms, List.mem_cons, List.not_mem_nil, or_false] at hr
  rcases hr with rfl | rfl | rfl
  · simp only [mem_sequence_cons, mem_sequence_nil, mem_char, mem_oneOf] at hx
    obtain ⟨_, ⟨d, hd, rfl⟩, _,
      ⟨ds, hds, _, ⟨_, rfl, _, ⟨fs, hfs, _, ⟨e, he, _, rfl, rfl⟩, rfl⟩,
      rfl⟩, rfl⟩, rfl⟩ := hx
    have hd := isDigit_of_mem hd
    have hds := mem_of_mem_star hds
    have hf : isFraction (fs ++ (e ++ [])) = true := by
      rw [List.append_nil]
      exact isFraction_of_mem hfs he
    refine isRealLike_of_dropSign (dropSign_append hs (by simp [hd]))
      hd ?_ (.inl ⟨_, rfl, hf⟩)
    exact dropWhile_append_of_head (fun c hc => isDigitLike_of_mem (hds c hc))
      rfl
  · simp only [mem_sequence_cons, mem_sequence_nil, mem_char, mem_oneOf] at hx
    obtain ⟨_, ⟨d, hd, rfl⟩, _,
      ⟨ds, hds, _, ⟨xs, hxs, _, ⟨_, rfl, _, ⟨ys, hys, _, rfl, rfl⟩, rfl⟩,
      rfl⟩, rfl⟩, rfl⟩ := hx
    have hd := isDigit_of_mem hd
    have hds := mem_of_mem_star hds
    have hf : isSexagesimalReal (xs ++ (['.'] ++ (ys ++ []))) = true := by
      rw [List.append_nil]
      exact isSexagesimalReal_of_mem hxs hys
    obtain ⟨-, ⟨y, rfl⟩, -⟩ := of_mem_sexagesimal hxs
    refine isRealLike_of_dropSign (dropSign_append hs (by simp [hd]))
      hd ?_ (.inr ⟨_, rfl, hf⟩)
    exact dropWhile_append_of_head (fun c hc => isDigitLike_of_mem (hds c hc))
      rfl
  · obtain ⟨w, hw, rfl⟩ := mem_anyWord.mp hx
    have words : ∀ s ∈ [[], ['-'], ['+']], ∀ w ∈ [".inf", ".Inf", ".INF"],
      isRealLike (s ++ w.toList) = true := by decide
    exact words s hs w hw

theorem isRealLike_of_mem_unsigned {r : RegularExpression Char}
    (hr : r ∈ unsignedRealForms) {cs : List Char} (h : cs ∈ r.matches') :
    isRealLike cs = true := by
  simp only [unsignedRealForms, List.mem_cons, List.not_mem_nil, or_false] at hr
  rcases hr with rfl | rfl
  · simp only [mem_sequence_cons, mem_sequence_nil, mem_char, mem_oneOf] at h
    obtain ⟨_, rfl, _,
      ⟨_, ⟨d, hd, rfl⟩, _, ⟨fs, hfs, _, ⟨e, he, _, rfl, rfl⟩, rfl⟩, rfl⟩,
      rfl⟩ := h
    have hf : isFraction (fs ++ (e ++ [])) = true := by
      rw [List.append_nil]
      exact isFraction_of_mem hfs he
    simp only [List.cons_append, List.nil_append, isRealLike, isDigit_of_mem hd,
      hf, Bool.true_and, Bool.or_true, Bool.true_or]
  · obtain ⟨w, hw, rfl⟩ := mem_anyWord.mp h
    have words :
        ∀ w ∈ [".nan", ".NaN", ".NAN"], isRealLike w.toList = true := by decide
    exact words w hw

/-! ## Time stamps -/

theorem takeDigits_append_of_mem {n : Nat} {x : List Char}
    (h : x ∈ (digitsOf n).matches') (rest : List Char) :
    takeDigits n (x ++ rest) = some rest := by
  induction n generalizing x with
  | zero =>
    rw [mem_sequence_nil.mp h]
    rfl
  | succ n ih =>
    obtain ⟨_, hx, y, hy, rfl⟩ := mem_sequence_cons.mp h
    obtain ⟨d, hd, rfl⟩ := mem_oneOf.mp hx
    change (if isDigit d then takeDigits n (y ++ rest) else none) = some rest
    rw [if_pos (isDigit_of_mem hd)]
    exact ih hy

theorem takeDigits_of_mem {n : Nat} {x : List Char}
    (h : x ∈ (digitsOf n).matches') :
    takeDigits n x = some [] := by
  have hx := takeDigits_append_of_mem h []
  rwa [List.append_nil] at hx

theorem takeShort_append_of_mem {x : List Char} (h : x ∈ short.matches')
    {rest : List Char} (hr : rest.head?.any isDigit = false) :
    takeShort (x ++ rest) = some rest := by
  simp only [short, mem_sequence_cons, mem_sequence_nil, mem_maybe,
    mem_oneOf] at h
  obtain ⟨_, ⟨a, ha, rfl⟩, _, ⟨_, hb, _, rfl, rfl⟩, rfl⟩ := h
  have ha := isDigit_of_mem ha
  rcases hb with ⟨b, hb, rfl⟩ | rfl
  · simp [takeShort, takeDigits, ha, isDigit_of_mem hb]
  · cases rest with
    | nil => simp [takeShort, takeDigits, ha]
    | cons c rest =>
      have hc : isDigit c = false := by simpa using hr
      simp [takeShort, takeDigits, ha, hc]

theorem isStampBlank_of_mem {c : Char} (h : c ∈ stampBlanks) :
    isStampBlank c = true :=
  forall_mem_of_all (p := fun c => isStampBlank c = true) (by decide) c h

theorem exists_digit_of_mem_short {x : List Char} (h : x ∈ short.matches') :
    ∃ d y, x = d :: y ∧ isDigit d = true := by
  obtain ⟨_, hx, y, -, rfl⟩ := mem_sequence_cons.mp h
  obtain ⟨d, hd, rfl⟩ := mem_oneOf.mp hx
  exact ⟨d, y, rfl, isDigit_of_mem hd⟩

theorem not_stampBlank_of_isDigit {d : Char} (h : isDigit d = true) :
    isStampBlank d = false := by
  refine Bool.eq_false_iff.mpr fun hb => ?_
  simp only [isStampBlank, Bool.or_eq_true, decide_eq_true_eq] at hb
  rcases hb with rfl | rfl
  all_goals exact absurd h (by decide)

/-- A zone is known, and does not go on with what stands in front of it. -/
theorem isZone_of_mem {x : List Char} (h : x ∈ (maybe zone).matches') :
    isZone x = true ∧ x.head?.any isDigit = false ∧ x.head? ≠ some '.' := by
  have blanks : ∀ c ∈ stampBlanks, isDigit c = false ∧ c ≠ '.' :=
    forall_mem_of_all (by decide)
  have signs : ∀ c ∈ ['-', '+'], (isDigit c = false ∧ c ≠ '.') ∧
    isStampBlank c = false ∧
      (c = '+' || c = '-') = true ∧ c ≠ 'Z' := forall_mem_of_all (by decide)
  rcases mem_maybe.mp h with h | rfl
  · obtain ⟨bs, hbs, y, hy, rfl⟩ := mem_sequence_cons.mp h
    have hbs := mem_of_mem_star hbs
    have head {c : Char} {z : List Char} (hc : isDigit c = false ∧ c ≠ '.') :
        (bs ++ c :: z).head?.any isDigit = false ∧
        (bs ++ c :: z).head? ≠ some '.' := by
      cases bs with
      | nil => simpa using hc
      | cons b bs => simpa using blanks b (hbs b List.mem_cons_self)
    have drop {c : Char} {z : List Char} (hc : isStampBlank c = false) :
        (bs ++ c :: z).dropWhile isStampBlank = c :: z :=
      dropWhile_append_of_head (fun b hb => isStampBlank_of_mem (hbs b hb)) hc
    simp only [mem_sequence_cons, mem_sequence_nil] at hy
    obtain ⟨y, hy, _, rfl, rfl⟩ := hy
    rw [List.append_nil]
    rcases mem_add.mp hy with hy | hy
    · obtain rfl := mem_char.mp hy
      refine ⟨?_, head (by decide)⟩
      rw [isZone, drop (by decide)]
      rfl
    · simp only [mem_sequence_cons, mem_sequence_nil, sign, mem_maybe,
        mem_oneOf, mem_char] at hy
      obtain ⟨_, ⟨c, hc, rfl⟩, _,
        ⟨hours, hh, _, ⟨minutes, hm, _, rfl, rfl⟩, rfl⟩, rfl⟩ := hy
      obtain ⟨hhead, hblank, hsign, hz⟩ := signs c hc
      refine ⟨?_, head hhead⟩
      have hx :
          (bs ++ ([c] ++ (hours ++ (minutes ++ [])))).dropWhile isStampBlank =
            c :: (hours ++ minutes) := by
        rw [List.append_nil]
        exact drop hblank
      rw [isZone, hx]
      simp only [hsign, Bool.true_and]
      rcases hm with ⟨_, rfl, _, ⟨ms, hms, _, rfl, rfl⟩, rfl⟩ | rfl
      · rw [takeShort_append_of_mem hh rfl]
        simp [takeDigits_of_mem hms]
      · rw [takeShort_append_of_mem hh rfl]
  · exact ⟨rfl, rfl, fun hc => nomatch hc⟩

theorem isTimeOfDay_append {mark : List Char} (h : mark ∈ timeMark.matches')
    {d : Char} (hd : isDigit d = true) (rest : List Char) :
    isTimeOfDay (mark ++ d :: rest) = isTimeOfDay ('T' :: d :: rest) ∧
      (mark ++ d :: rest).head?.any isDigit = false := by
  have marks : ∀ c ∈ stampBlanks, isDigit c = false ∧ c ≠ 'T' ∧ c ≠ 't' :=
    forall_mem_of_all (by decide)
  rcases mem_add.mp h with h | h
  · obtain ⟨c, hc, rfl⟩ := mem_oneOf.mp h
    simp only [List.mem_cons, List.not_mem_nil, or_false] at hc
    rcases hc with rfl | rfl
    · exact ⟨rfl, (by decide : isDigit 'T' = false)⟩
    · exact ⟨rfl, (by decide : isDigit 't' = false)⟩
  · obtain ⟨c, bs, rfl, hbs⟩ := exists_of_mem_many h
    obtain ⟨hc, hT, ht⟩ := marks c (hbs c List.mem_cons_self)
    have hblank : isStampBlank c = true :=
      isStampBlank_of_mem (hbs c List.mem_cons_self)
    have hdrop : (bs ++ d :: rest).dropWhile isStampBlank = d :: rest :=
      dropWhile_append_of_head
        (fun b hb => isStampBlank_of_mem (hbs b (List.mem_cons_of_mem c hb)))
        (not_stampBlank_of_isDigit hd)
    refine ⟨?_, by simpa using hc⟩
    simp [isTimeOfDay, hblank, hdrop]

theorem isTimeOfDay_of_mem {x : List Char} (h : x ∈ timeOfDay.matches') :
    isTimeOfDay x = true ∧ x.head?.any isDigit = false := by
  obtain ⟨mark, hmark, _, h1, rfl⟩ := mem_sequence_cons.mp h
  obtain ⟨hours, hh, _, h2, rfl⟩ := mem_sequence_cons.mp h1
  obtain ⟨_, rfl, _, h3, rfl⟩ := mem_sequence_cons.mp h2
  obtain ⟨minutes, hm, _, h4, rfl⟩ := mem_sequence_cons.mp h3
  obtain ⟨_, rfl, _, h5, rfl⟩ := mem_sequence_cons.mp h4
  obtain ⟨seconds, hs, _, h6, rfl⟩ := mem_sequence_cons.mp h5
  obtain ⟨fraction, hf, _, h7, rfl⟩ := mem_sequence_cons.mp h6
  obtain ⟨z, hz, _, rfl, rfl⟩ := mem_sequence_cons.mp h7
  obtain ⟨hz, hhead, hpoint⟩ := isZone_of_mem hz
  obtain ⟨d, rest, rfl, hd⟩ := exists_digit_of_mem_short hh
  rw [List.append_nil]
  have hshort := takeShort_append_of_mem hh
    (rfl : (':' :: (minutes ++ ':' :: (seconds ++ (fraction ++ z)))).head?.any
      isDigit = false)
  obtain ⟨hmark, hfirst⟩ := isTimeOfDay_append hmark hd
    (rest ++ ':' :: (minutes ++ ':' :: (seconds ++ (fraction ++ z))))
  refine ⟨hmark.trans ?_, hfirst⟩
  rw [List.cons_append] at hshort
  simp only [isTimeOfDay, hshort, takeChar, takeDigits_append_of_mem hm,
    takeDigits_append_of_mem hs, if_true, Option.bind_eq_bind, Option.bind_some]
  simp only [secondFraction, mem_maybe, mem_sequence_cons, mem_sequence_nil,
    mem_char] at hf
  rcases hf with ⟨_, rfl, _, ⟨ds, hds, _, rfl, rfl⟩, rfl⟩ | rfl
  · have hds := mem_of_mem_star hds
    have hdrop : (ds ++ z).dropWhile isDigit = z :=
      dropWhile_append_of_head (fun c hc => isDigit_of_mem (hds c hc)) hhead
    simp [hdrop, hz]
  · cases z with
    | nil => exact hz
    | cons c z =>
      have hc : c ≠ '.' := fun hc => hpoint (congrArg some hc)
      simpa [hc] using hz

theorem isTimestamp_of_mem {r : RegularExpression Char} (hr : r ∈ stampForms)
    {cs : List Char} (h : cs ∈ r.matches') : isTimestamp cs = true := by
  simp only [stampForms, List.mem_cons, List.not_mem_nil, or_false] at hr
  rcases hr with rfl | rfl
  · obtain ⟨ys, hy, _, h1, rfl⟩ := mem_sequence_cons.mp h
    obtain ⟨_, rfl, _, h2, rfl⟩ := mem_sequence_cons.mp h1
    obtain ⟨ms, hm, _, h3, rfl⟩ := mem_sequence_cons.mp h2
    obtain ⟨_, rfl, _, h4, rfl⟩ := mem_sequence_cons.mp h3
    obtain ⟨ds, hd, _, rfl, rfl⟩ := mem_sequence_cons.mp h4
    have hdate :
        isDate (ys ++ (['-'] ++ (ms ++ (['-'] ++ (ds ++ []))))) = true := by
      simp [isDate, takeDigits_append_of_mem hy, takeDigits_append_of_mem hm,
        takeDigits_of_mem hd, takeChar]
    rw [isTimestamp, hdate, Bool.true_or]
  · obtain ⟨ys, hy, _, h1, rfl⟩ := mem_sequence_cons.mp h
    obtain ⟨_, rfl, _, h2, rfl⟩ := mem_sequence_cons.mp h1
    obtain ⟨ms, hm, _, h3, rfl⟩ := mem_sequence_cons.mp h2
    obtain ⟨_, rfl, _, h4, rfl⟩ := mem_sequence_cons.mp h3
    obtain ⟨ds, hd, _, h5, rfl⟩ := mem_sequence_cons.mp h4
    obtain ⟨x, hx, _, rfl, rfl⟩ := mem_sequence_cons.mp h5
    obtain ⟨htime, hhead⟩ := isTimeOfDay_of_mem hx
    have hshort :
        takeShort (ms ++ '-' :: (ds ++ x)) = some ('-' :: (ds ++ x)) :=
      takeShort_append_of_mem hm rfl
    simp [isTimestamp, takeDigits_append_of_mem hy, takeChar, hshort,
      takeShort_append_of_mem hd hhead, htime]

/-! ## What stands plain -/

/-- The writer knows all forms of other types. -/
theorem readsAsOther_of_mem {r : RegularExpression Char} (hr : r ∈ otherTypes)
    {cs : List Char} (h : cs ∈ r.matches') : readsAsOther cs = true := by
  simp only [otherTypes, List.mem_append, List.mem_cons, List.mem_map] at hr
  rcases hr with ((rfl | ⟨r, hr | hr, rfl⟩) | hr) | hr
  · obtain ⟨w, hw, rfl⟩ := mem_anyWord.mp h
    have words : ∀ w ∈ otherWords, readsAsOther w.toList = true := by decide
    exact words w hw
  · simp [readsAsOther, isIntegerLike_of_mem hr h]
  · simp [readsAsOther, isRealLike_of_mem hr h]
  · simp [readsAsOther, isRealLike_of_mem_unsigned hr h]
  · simp [readsAsOther, isTimestamp_of_mem hr h]

theorem natural?_toDigits (n : Nat) :
    natural? (Nat.toDigits 10 n) = some n := by
  simp [natural?]

theorem eq_toDigits_of_natural? {cs : List Char} {n : Nat}
    (h : natural? cs = some n) :
    cs = Nat.toDigits 10 n := by
  rw [natural?] at h
  split at h
  · rename_i hcs
    rw [← Option.some.inj h, hcs]
  · cases h

/-- The first digit of a number is not zero, unless it is the only one. -/
theorem exists_toDigits_eq_cons (n : Nat) :
    n = 0 ∨ ∃ c ds, Nat.toDigits 10 n = c :: ds ∧ c ≠ '0' := by
  induction n using Nat.strongRecOn with
  | ind n ih =>
    by_cases hn : n < 10
    · rw [Nat.toDigits_of_lt_base hn]
      have small : ∀ n < 10, n = 0 ∨ n.digitChar ≠ '0' := by decide
      exact (small n hn).imp_right fun h => ⟨_, _, rfl, h⟩
    · obtain h | ⟨c, ds, hc, h0⟩ := ih (n / 10) (by omega)
      · omega
      · refine .inr ⟨c, ds ++ [(n % 10).digitChar], ?_, h0⟩
        rw [Nat.toDigits_of_base_le (by decide) (by omega), hc,
          List.cons_append]

theorem isDigit_of_mem_toDigits {n : Nat} {c : Char}
    (h : c ∈ Nat.toDigits 10 n) :
    isDigit c = true := by
  have hc : c.isDigit = true :=
    Nat.isDigit_of_mem_toDigits (by decide) (by decide) h
  have hc : 0x30 ≤ c.toNat ∧ c.toNat ≤ 0x39 := by
    simpa [Char.isDigit, UInt32.le_iff_toNat_le] using hc
  simp [isDigit, Text.asciiDigit?, hc]

theorem isIntegerLike_append_toDigits {s : List Char}
    (hs : s ∈ [[], ['-'], ['+']]) (n : Nat) :
    isIntegerLike (s ++ Nat.toDigits 10 n) = true := by
  rcases exists_toDigits_eq_cons n with rfl | ⟨c, ds, hn, h0⟩
  · revert s
    decide
  · have hc : ∀ d ∈ c :: ds, isDigit d = true :=
      fun d hd => isDigit_of_mem_toDigits (hn ▸ hd)
    obtain ⟨hc, hds⟩ := List.forall_mem_cons.mp hc
    have hx : dropSign (s ++ c :: ds) = c :: ds :=
      dropSign_append hs (by simp [hc])
    have hdrop : ds.dropWhile isDigitLike = [] := by
      refine List.dropWhile_eq_nil_iff.mpr fun d hd => ?_
      rw [isDigitLike, hds d hd, Bool.true_or]
    rw [hn, isIntegerLike_decimal hx hc h0, hdrop]
    rfl

theorem isIntegerLike_of_integer? {cs : List Char} {n : Int}
    (h : integer? cs = some n) :
    isIntegerLike cs = true := by
  rw [integer?.eq_def] at h
  split at h
  · obtain ⟨m, hm, -⟩ := Option.map_eq_some_iff.mp h
    rw [eq_toDigits_of_natural? hm]
    exact isIntegerLike_append_toDigits (s := ['-']) (by decide) m
  · obtain ⟨m, hm, -⟩ := Option.map_eq_some_iff.mp h
    rw [eq_toDigits_of_natural? hm]
    exact isIntegerLike_append_toDigits (s := []) (by decide) m

/-- What stands plain as text reads as text. -/
theorem resolve_of_not_other {cs : List Char} (h : readsAsOther cs = false) :
    resolve cs = some (.text (String.ofList cs)) := by
  have hn : integer? cs = none := by
    refine Option.eq_none_iff_forall_ne_some.mpr fun n hn => ?_
    have hi := isIntegerLike_of_integer? hn
    simp [readsAsOther, hi] at h
  have ho : otherTypes.any (·.rmatch cs) = false := by
    refine Bool.eq_false_iff.mpr fun hany => ?_
    obtain ⟨r, hr, hmatch⟩ := List.any_eq_true.mp hany
    exact nomatch h.symm.trans
      (readsAsOther_of_mem hr
        ((RegularExpression.rmatch_iff_matches' r cs).mp hmatch))
  rw [resolve, hn, ho]
  rfl

theorem toList_toString_ofNat (n : Nat) :
    (toString (Int.ofNat n)).toList = Nat.toDigits 10 n :=
  Nat.toList_repr

theorem toList_toString_negSucc (n : Nat) :
    (toString (Int.negSucc n)).toList = '-' :: Nat.toDigits 10 (n + 1) := by
  change ("-" ++ Nat.repr (n + 1)).toList = _
  rw [String.toList_append, Nat.toList_repr]
  rfl

/-- Whole numbers read as they were. -/
theorem resolve_toString (n : Int) :
    resolve (toString n).toList = some (.integer n) := by
  have h : integer? (toString n).toList = some n := by
    cases n with
    | ofNat m =>
      rw [toList_toString_ofNat, integer?.eq_def]
      split
      · rename_i cs hcs
        exact absurd (isDigit_of_mem_toDigits (hcs ▸ List.mem_cons_self))
          (by decide : ¬isDigit '-' = true)
      · rw [natural?_toDigits]
        rfl
    | negSucc m =>
      rw [toList_toString_negSucc, integer?, natural?_toDigits]
      rfl
  rw [resolve, h]

end SingleNode.Yaml.Reader
