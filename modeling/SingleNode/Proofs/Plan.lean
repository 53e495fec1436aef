/-
# Following a plan

A plan is a list of steps.  A log follows it if its entries are for the steps of
the plan, in order and without a gap, and it goes on for as long as the entries
pass: the first entry that does not pass is the last one.  So a log is for the
whole plan or stops at a step that did not pass (`Follows.map_eq_or_getLast?`),
every entry but the last one passed (`Follows.passes_of_mem_dropLast`), and it
is never more than the plan (`Follows.isPrefix`).  `step` says which step an
entry is for, `passes` whether it lets the plan go on.
-/
import Mathlib.Data.List.Basic

namespace SingleNode

/-- The log follows the plan up to the first entry that does not pass. -/
inductive Follows {ε κ : Type} (step : ε → κ) (passes : ε → Prop) : List κ →
    List ε → Prop
  | done : Follows step passes [] []
  | stop {x : ε} {plan : List κ} : ¬passes x →
      Follows step passes (step x :: plan) [x]
  | next {x : ε} {plan : List κ} {log : List ε} : passes x →
      Follows step passes plan log →
      Follows step passes (step x :: plan) (x :: log)

namespace Follows

variable {ε κ : Type} {step : ε → κ} {passes : ε → Prop} {plan more : List κ}
  {log : List ε}

@[simp] theorem nil_iff : Follows step passes [] log ↔ log = [] := by
  constructor
  · rintro ⟨⟩
    rfl
  · rintro rfl
    exact .done

@[simp] theorem not_of_nil {k : κ} : ¬Follows step passes (k :: plan) [] :=
  nofun

@[simp] theorem cons_iff {k : κ} {x : ε} :
    Follows step passes (k :: plan) (x :: log) ↔
      step x = k ∧
      (passes x ∧ Follows step passes plan log ∨ ¬passes x ∧ log = []) := by
  constructor
  · rintro (_ | hx | ⟨hx, h⟩)
    · exact ⟨rfl, .inr ⟨hx, rfl⟩⟩
    · exact ⟨rfl, .inl ⟨hx, h⟩⟩
  · rintro ⟨rfl, ⟨hx, h⟩ | ⟨hx, rfl⟩⟩
    · exact .next hx h
    · exact .stop hx

theorem isPrefix (h : Follows step passes plan log) :
    log.map step <+: plan := by
  induction h with
  | done => exact List.prefix_rfl
  | stop _ => exact List.prefix_iff_eq_append.mpr rfl
  | next _ _ ih => exact List.prefix_cons_inj _ |>.mpr ih

theorem passes_of_mem_dropLast (h : Follows step passes plan log) :
    ∀ x ∈ log.dropLast, passes x := by
  induction h with
  | done => simp
  | stop _ => simp
  | @next x plan log hx h ih =>
    intro y hy
    cases log with
    | nil => simp at hy
    | cons z rest =>
      rcases List.mem_cons.mp hy with rfl | hy
      · exact hx
      · exact ih y hy

theorem map_eq (h : Follows step passes plan log) (hp : ∀ x ∈ log, passes x) :
    log.map step = plan := by
  induction h with
  | done => rfl
  | stop hx => exact absurd (hp _ List.mem_cons_self) hx
  | next _ _ ih =>
    rw [List.map_cons, ih fun y hy => hp y (List.mem_cons_of_mem _ hy)]

/-- A log is for the whole plan, or its last entry did not pass. -/
theorem map_eq_or_getLast? (h : Follows step passes plan log) :
    (log.map step = plan ∧ ∀ x ∈ log, passes x) ∨ ∃ x, log.getLast? = some x ∧
      ¬passes x := by
  induction h with
  | done => exact Or.inl ⟨rfl, by simp⟩
  | @stop x _ hx => exact Or.inr ⟨x, rfl, hx⟩
  | @next x plan log hx h ih =>
    rcases ih with ⟨rfl, hall⟩ | ⟨y, hy, hny⟩
    · exact Or.inl ⟨rfl, by simpa using ⟨hx, hall⟩⟩
    · refine Or.inr ⟨y, ?_, hny⟩
      cases log with
      | nil => simp at hy
      | cons z rest => rwa [List.getLast?_cons_cons]

theorem append_of_stopped (h : Follows step passes plan log)
    (hs : ∃ x, log.getLast? = some x ∧ ¬passes x) :
    Follows step passes (plan ++ more) log := by
  induction h with
  | done => simp at hs
  | stop hx => exact .stop hx
  | @next x plan log hx h ih =>
    refine .next hx (ih ?_)
    obtain ⟨y, hy, hny⟩ := hs
    cases log with
    | nil => exact absurd hx (by simp_all)
    | cons z rest => exact ⟨y, by rwa [List.getLast?_cons_cons] at hy, hny⟩

/-- After a log in which everything passed, the rest of the plan is followed. -/
theorem append {rest : List ε} (h : Follows step passes plan log)
    (hp : ∀ x ∈ log, passes x) (hr : Follows step passes more rest) :
    Follows step passes (plan ++ more) (log ++ rest) := by
  induction h with
  | done => exact hr
  | stop hx => exact absurd (hp _ List.mem_cons_self) hx
  | next hx _ ih =>
    exact .next hx (ih fun y hy => hp y (List.mem_cons_of_mem _ hy))

end Follows

end SingleNode
