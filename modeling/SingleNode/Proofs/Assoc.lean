/-
# Merged binding lists

Giving bindings one after the other leaves each key with the last value given.
Old keys stay in front, and new ones follow in the order in which they were
first given.  What is given to some keys changes nothing about the others, their
places included (`filter_merge`).
-/
import SingleNode.Assoc

namespace SingleNode.Assoc

variable {α : Type}

theorem get?_append (key : String) (xs ys : Assoc α) :
    get? key (xs ++ ys) = (xs.get? key).or (ys.get? key) := by
  induction xs with
  | nil => exact Option.none_or.symm
  | cons b rest ih =>
    rw [List.cons_append, get?, get?]
    split
    · rfl
    · exact ih

theorem merge_append (old new later : Assoc α) :
    old.merge (new ++ later) = (old.merge new).merge later :=
  List.foldl_append

/-- A key has the last value given. -/
theorem get?_merge (key : String) (old new : Assoc α) :
    (old.merge new).get? key = (get? key new.reverse).or (old.get? key) := by
  induction new generalizing old with
  | nil => exact Option.none_or.symm
  | cons b rest ih =>
    obtain ⟨k, v⟩ := b
    have hlast :
        get? key (insert k v old) = (get? key [(k, v)]).or (old.get? key) := by
      rw [get?_insert, get?]
      split
      · rfl
      · exact Option.none_or.symm
    calc (merge (insert k v old) rest).get? key
        = (get? key rest.reverse).or ((insert k v old).get? key) := ih _
      _ = ((get? key rest.reverse).or (get? key [(k, v)])).or
        (old.get? key) := by
          rw [hlast, Option.or_assoc]
      _ = (get? key ((k, v) :: rest).reverse).or (old.get? key) := by
          rw [List.reverse_cons, get?_append]

/-- Old keys stay where they are; new ones follow, in the order in which they
were first given. -/
theorem keys_merge (old new : Assoc α) :
    (old.merge new).keys = old.keys ++
      (new.keys.filter (· ∉ old.keys)).eraseDups := by
  induction new generalizing old with
  | nil => exact (List.append_nil _).symm
  | cons b rest ih =>
    obtain ⟨k, v⟩ := b
    show (merge (insert k v old) rest).keys = _
    rw [ih, keys_insert]
    show _ = old.keys ++ ((k :: keys rest).filter (· ∉ old.keys)).eraseDups
    by_cases hk : k ∈ old.keys
    · rw [if_pos hk, List.filter_cons_of_neg (by simpa using hk)]
    · rw [if_neg hk, List.filter_cons_of_pos (by simpa using hk),
        List.eraseDups_cons,
        List.filter_filter, List.append_assoc, List.singleton_append]
      have hf (x : String) :
          decide (x ∉ old.keys ++ [k]) =
            ((!x == k) && decide (x ∉ old.keys)) := by
        rw [Bool.eq_iff_iff]
        simp [and_comm]
      simp only [hf]

theorem filter_insert {p : String → Bool} {key : String} (h : p key = false)
    (value : α) (xs : Assoc α) :
    (insert key value xs).filter (fun b => p b.1) = xs.filter fun b =>
      p b.1 := by
  induction xs with
  | nil => exact List.filter_cons_of_neg (Bool.eq_false_iff.mp h)
  | cons b rest ih =>
    obtain ⟨k, v⟩ := b
    rw [insert]
    split
    · next hk =>
      have hp : p k = false := hk ▸ h
      simp only [List.filter_cons, hp, Bool.false_eq_true, if_false]
    · rw [List.filter_cons, List.filter_cons, ih]

theorem filter_merge {p : String → Bool} {new : Assoc α}
    (h : ∀ b ∈ new, p b.1 = false) (old : Assoc α) :
    (old.merge new).filter (fun b => p b.1) = old.filter fun b => p b.1 := by
  induction new generalizing old with
  | nil => rfl
  | cons b rest ih =>
    show (merge (insert b.1 b.2 old) rest).filter _ = _
    rw [ih fun x hx => h x (List.mem_cons_of_mem _ hx)]
    exact filter_insert (h b List.mem_cons_self) b.2 old

end SingleNode.Assoc
