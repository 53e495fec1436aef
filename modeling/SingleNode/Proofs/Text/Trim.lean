/-
# What is left of a trimmed text

Trimming takes characters of a class off both ends.  What is left is known by
two facts: with characters of the class on either side it is the text, and it
has none of them at its own ends (`IsTrimmed`).  Nothing else has both
(`trimList_eq_iff`), so a proof about trimmed text never looks at how it was
trimmed.
-/
import Mathlib.Data.List.DropRight
import SingleNode.Text.Blank

namespace SingleNode.Text

/-- Neither the first nor the last character is of the class. -/
structure IsTrimmed (p : Char → Bool) (cs : List Char) : Prop where
  head : ∀ c, cs.head? = some c → p c = false
  last : ∀ c, cs.getLast? = some c → p c = false

variable {p : Char → Bool} {cs core lead trail : List Char}

theorem isTrimmed_nil : IsTrimmed p [] := ⟨nofun, nofun⟩

theorem dropWhile_eq_self_of_head (h : ∀ c, cs.head? = some c → p c = false) :
    cs.dropWhile p = cs := by
  cases cs with
  | nil => rfl
  | cons c rest =>
    exact List.dropWhile_cons_of_neg (by rw [h c rfl]; exact Bool.false_ne_true)

theorem head?_dropWhile_eq_false {c : Char}
    (h : (cs.dropWhile p).head? = some c) : p c = false := by
  have hd := List.head?_dropWhile_not p cs
  rw [h] at hd
  exact hd

theorem trimList_append (hl : ∀ c ∈ lead, p c = true)
    (ht : ∀ c ∈ trail, p c = true) (h : IsTrimmed p core) :
    trimList p (lead ++ core ++ trail) = core := by
  have htrail : ∀ c ∈ trail.reverse, p c = true :=
    fun c hc => ht c (List.mem_reverse.mp hc)
  cases core with
  | nil =>
    have hall : ∀ c ∈ lead ++ [] ++ trail, p c = true := by
      intro c hc
      rw [List.append_nil] at hc
      exact (List.mem_append.mp hc).elim (hl c) (ht c)
    rw [trimList, List.dropWhile_eq_nil_iff.mpr hall]
    rfl
  | cons c rest =>
    have hhead : (c :: rest ++ trail).dropWhile p = c :: rest ++ trail :=
      dropWhile_eq_self_of_head h.head
    have hlast : (c :: rest).reverse.dropWhile p = (c :: rest).reverse := by
      refine dropWhile_eq_self_of_head fun d hd => ?_
      rw [List.head?_reverse] at hd
      exact h.last d hd
    rw [trimList, List.append_assoc, List.dropWhile_append_of_pos hl, hhead,
      List.reverse_append,
      List.dropWhile_append_of_pos htrail, hlast, List.reverse_reverse]

theorem exists_trimList_append (p : Char → Bool) (cs : List Char) :
    ∃ lead trail, (∀ c ∈ lead, p c = true) ∧ (∀ c ∈ trail, p c = true) ∧
      cs = lead ++ trimList p cs ++ trail := by
  refine ⟨cs.takeWhile p, (cs.dropWhile p).rtakeWhile p, ?_, ?_, ?_⟩
  · intro c hc
    exact List.mem_takeWhile_imp hc
  · intro c hc
    exact List.mem_rtakeWhile_imp hc
  · show cs = cs.takeWhile p ++ (cs.dropWhile p).rdropWhile p ++
      (cs.dropWhile p).rtakeWhile p
    rw [List.append_assoc, List.rdropWhile_append_rtakeWhile,
      List.takeWhile_append_dropWhile]

theorem isTrimmed_trimList (p : Char → Bool) (cs : List Char) :
    IsTrimmed p (trimList p cs) where
  head c hc := by
    obtain ⟨tail, hprefix⟩ := List.rdropWhile_prefix p (cs.dropWhile p)
    have hd : (cs.dropWhile p).head? = some c := by
      rw [← hprefix, List.head?_append_of_ne_nil]
      · exact hc
      · rintro hnil
        rw [trimList, ← List.rdropWhile, hnil] at hc
        cases hc
    exact head?_dropWhile_eq_false hd
  last c hc := by
    rw [trimList, List.getLast?_reverse] at hc
    exact head?_dropWhile_eq_false hc

/-- Trimming leaves what stands between characters of the class. -/
theorem trimList_eq_iff : trimList p cs = core ↔
    IsTrimmed p core ∧ ∃ lead trail, (∀ c ∈ lead, p c = true) ∧
      (∀ c ∈ trail, p c = true) ∧
      cs = lead ++ core ++ trail := by
  constructor
  · rintro rfl
    exact ⟨isTrimmed_trimList p cs, exists_trimList_append p cs⟩
  · rintro ⟨h, lead, trail, hl, ht, rfl⟩
    exact trimList_append hl ht h

theorem trimList_eq_nil_iff : trimList p cs = [] ↔ ∀ c ∈ cs, p c = true := by
  rw [trimList_eq_iff]
  constructor
  · rintro ⟨-, lead, trail, hl, ht, rfl⟩ c hc
    rw [List.append_nil] at hc
    exact (List.mem_append.mp hc).elim (hl c) (ht c)
  · intro h
    exact ⟨isTrimmed_nil, cs, [], h,
      nofun, by rw [List.append_nil, List.append_nil]⟩

end SingleNode.Text
