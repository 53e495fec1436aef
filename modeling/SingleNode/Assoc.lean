/-
# Association lists in order of insertion

A binding list keeps the order in which its keys were first given. Giving a key
again changes its value in place. Later readers see exactly one value for each
key, the last one given.
-/

namespace SingleNode

/-- Values by key, in the order in which the keys were first given. -/
abbrev Assoc (α : Type) := List (String × α)

namespace Assoc

variable {α : Type}

def get? (key : String) : Assoc α → Option α
  | [] => none
  | (k, v) :: rest => if k = key then some v else get? key rest

/-- Gives a value to a key: in place if the key is there, else at the end. -/
def insert (key : String) (value : α) : Assoc α → Assoc α
  | [] => [(key, value)]
  | (k, v) :: rest =>
    if k = key then (k, value) :: rest else (k, v) :: insert key value rest

/-- Gives the bindings of another list, one after the other. -/
def merge (old new : Assoc α) : Assoc α :=
  new.foldl (fun acc b => acc.insert b.1 b.2) old

def keys (xs : Assoc α) : List String :=
  xs.map Prod.fst

/-- The bindings given, one after the other, to an empty list. -/
def ofList (xs : List (String × α)) : Assoc α :=
  merge [] xs

theorem get?_insert (key other : String) (value : α) (xs : Assoc α) :
    (insert key value xs).get? other = if key =
      other then some value else xs.get? other := by
  induction xs with
  | nil => simp [insert, get?]
  | cons b rest ih =>
    obtain ⟨k, v⟩ := b
    by_cases h : k = key
    · subst h
      by_cases h' : k = other <;> simp [insert, get?, h']
    · by_cases h' : k = other
      · subst h'
        simp [insert, get?, h, Ne.symm h]
      · simp [insert, get?, h, h', ih]

theorem keys_insert (key : String) (value : α) (xs : Assoc α) :
    (insert key value xs).keys = if key ∈
      xs.keys then xs.keys else xs.keys ++ [key] := by
  induction xs with
  | nil => simp [insert, keys]
  | cons b rest ih =>
    obtain ⟨k, v⟩ := b
    by_cases h : k = key
    · simp [insert, keys, h]
    · simp only [keys, List.map_cons, List.mem_cons] at ih ⊢
      simp only [insert, h, if_false, List.map_cons, ih, Ne.symm h, false_or]
      split <;> simp_all

end Assoc

end SingleNode
