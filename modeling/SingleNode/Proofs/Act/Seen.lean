/-
# Actions seen through a part of their state

`Seen f x y` says that `y` is what `x` looks like to those who see only `f s` of
its state `s`: same events, same outcome, and the state that is seen is the
state of `y`.  This is one way of being alike, so it passes through every way of
putting actions together: a workflow over collaborators can be run with
collaborators that keep more in their state, a log for instance, and nobody will
notice.
-/
import SingleNode.Proofs.Act.Alike

namespace SingleNode

/-- A report whose state is seen through a function. -/
def Report.through {τ σ α : Type} (f : τ → σ) (r : Report τ α) : Report σ α :=
  ⟨r.events, f r.state, r.outcome⟩

/-- The second action is the first one, seen through a function of the state. -/
def Seen {τ σ α : Type} (f : τ → σ) (x : Act τ α) (y : Act σ α) : Prop :=
  ∀ s, y.run (f s) = (x.run s).through f

/-- An observed state, with the world seen through a function. -/
def Observed.through {τ σ : Type} (f : τ → σ) (s : Observed τ) : Observed σ :=
  ⟨s.telemetry, s.clock, f s.world⟩

variable {τ σ α : Type} {f : τ → σ}

/-- Being seen through a function is being alike, in the states that the
function leads to. -/
theorem seen_iff_alike {x : Act τ α} {y : Act σ α} :
    Seen f x y ↔ Act.Alike (fun s t => f s = t) Eq Eq x y := by
  constructor
  · rintro h s _ rfl
    rw [h s]
    exact ⟨rfl, by rw [List.forall₂_eq_eq_eq]; rfl, .refl _⟩
  · intro h s
    obtain ⟨ht, he, ho⟩ := h s (f s) rfl
    rw [List.forall₂_eq_eq_eq] at he
    rw [endedAlike_eq_iff] at ho
    rcases hy : y.run (f s) with ⟨es, t, r⟩
    rw [hy] at ht he ho
    rw [Report.through, ht, he, ho]

theorem through_eq_iff {s : Observed τ} {t : Observed σ} :
    Observed.through f s = t ↔ Observed.Alike (fun s t => f s = t) s t := by
  constructor
  · rintro rfl
    exact ⟨rfl, rfl, rfl⟩
  · rintro ⟨ht, hc, hw⟩
    rw [Observed.through, ht, hc, hw]

theorem seen_through_iff_alike {x : Act (Observed τ) α}
    {y : Act (Observed σ) α} :
    Seen (Observed.through f) x y ↔
      Act.Alike (Observed.Alike fun s t => f s = t) Eq Eq x y := by
  rw [seen_iff_alike]
  simp only [Act.Alike, through_eq_iff]

end SingleNode
