/-
# Two actions that are alike

`Alike R E V x y` compares what `x` and `y` do if they are run in states that
belong together by `R`.  The states in which they end belong together again;
their events belong together by `E`, one by one; and either both return values
that belong together by `V`, or both fail with the same failure.

The rules follow the ways of putting actions together.  So two runs of a
workflow that are given different values, or keep different things in their
states, are compared by comparing the places where these are used.
-/
import Mathlib.Data.List.Forall2
import SingleNode.Proofs.Act.Deeds

namespace SingleNode

variable {σ τ α β γ δ : Type}

/-- Both returned values that belong together, or both failed in the same
way. -/
inductive EndedAlike (V : α → β → Prop) : Except Failure α →
    Except Failure β → Prop
  | returned {a : α} {b : β} : V a b → EndedAlike V (.ok a) (.ok b)
  | failed (e : Failure) : EndedAlike V (.error e) (.error e)

theorem EndedAlike.refl (r : Except Failure α) : EndedAlike Eq r r := by
  cases r with
  | error e => exact .failed e
  | ok a => exact .returned rfl

theorem EndedAlike.imp {V W : α → β → Prop} {r : Except Failure α}
    {q : Except Failure β} (h : EndedAlike V r q) (hVW : ∀ a b, V a b → W a b) :
    EndedAlike W r q := by
  cases h with
  | returned h => exact .returned (hVW _ _ h)
  | failed e => exact .failed e

theorem endedAlike_eq_iff {r q : Except Failure α} :
    EndedAlike Eq r q ↔ r = q := by
  constructor
  · intro h
    cases h with
    | returned h => exact congrArg _ h
    | failed e => rfl
  · rintro rfl
    exact .refl r

/-- What two actions did, side by side. -/
structure Report.Alike (R : σ → τ → Prop) (E : Event → Event → Prop)
    (V : α → β → Prop) (r : Report σ α) (q : Report τ β) : Prop where
  state : R r.state q.state
  events : List.Forall₂ E r.events q.events
  outcome : EndedAlike V r.outcome q.outcome

/-- The states are the same, and have the property. -/
def Same (I : σ → Prop) (s t : σ) : Prop := s = t ∧ I s

namespace Act

variable {R : σ → τ → Prop} {I : σ → Prop} {E : Event → Event → Prop}
  {V : α → β → Prop}
  {W : γ → δ → Prop}

/-- The actions do the same but for states, events and values that belong
together. -/
def Alike (R : σ → τ → Prop) (E : Event → Event → Prop) (V : α → β → Prop)
    (x : Act σ α) (y : Act τ β) : Prop :=
  ∀ s t, R s t → (x.run s).Alike R E V (y.run t)

namespace Alike

theorem pure {a : α} {b : β} (h : V a b) :
    Alike R E V (pure a : Act σ α) (pure b : Act τ β) :=
  fun _ _ hst => ⟨hst, .nil, .returned h⟩

theorem ofExcept {r : Except Failure α} {q : Except Failure β}
    (h : EndedAlike V r q) :
    Alike R E V (Act.ofExcept r : Act σ α) (Act.ofExcept q : Act τ β) :=
  fun _ _ hst => ⟨hst, .nil, h⟩

theorem fail (e : Failure) :
    Alike R E V (Act.fail e : Act σ α) (Act.fail e : Act τ β) :=
  ofExcept (.failed e)

theorem ofFault (r : Except Fault α) :
    Alike R E Eq (Act.ofFault r : Act σ α) (Act.ofFault r : Act τ α) := by
  cases r with
  | error f => exact fail _
  | ok a => exact pure rfl

theorem emit {e f : Event} (h : E e f) :
    Alike R E Eq (Act.emit e : Act σ Unit) (Act.emit f : Act τ Unit) :=
  fun _ _ hst => ⟨hst, .cons h .nil, .returned rfl⟩

theorem get : Alike R E R (Act.get : Act σ σ) (Act.get : Act τ τ) :=
  fun _ _ hst => ⟨hst, .nil, .returned hst⟩

theorem modify {f : σ → σ} {g : τ → τ} (h : ∀ s t, R s t → R (f s) (g t)) :
    Alike R E Eq (Act.modify f) (Act.modify g) :=
  fun s t hst => ⟨h s t hst, .nil, .returned rfl⟩

theorem bind {x : Act σ α} {y : Act τ β} {f : α → Act σ γ} {g : β → Act τ δ}
    (h : Alike R E V x y) (hfg : ∀ a b, V a b → Alike R E W (f a) (g b)) :
    Alike R E W (x >>= f) (y >>= g) := by
  intro s t hst
  obtain ⟨ht, he, ho⟩ := h s t hst
  rcases hx : x.run s with ⟨es, s', r⟩
  rcases hy : y.run t with ⟨fs, t', q⟩
  simp only [hx, hy] at ht he ho
  cases ho with
  | failed e =>
    rw [run_bind_error hx, run_bind_error hy]
    exact ⟨ht, he, .failed e⟩
  | @returned a b hab =>
    obtain ⟨ht', he', ho'⟩ := hfg a b hab s' t' ht
    rw [run_bind_ok hx, run_bind_ok hy]
    exact ⟨ht', List.rel_append he he', ho'⟩

theorem next {x : Act σ α} {y : Act τ α} {f : α → Act σ γ} {g : α → Act τ δ}
    (h : Alike R E Eq x y) (hfg : ∀ a, Alike R E W (f a) (g a)) :
    Alike R E W (x >>= f) (y >>= g) := by
  refine h.bind ?_
  rintro a _ rfl
  exact hfg a

theorem map (f : α → γ) {x : Act σ α} {y : Act τ α} (h : Alike R E Eq x y) :
    Alike R E Eq (f <$> x) (f <$> y) := by
  rw [map_eq_pure_bind, map_eq_pure_bind]
  exact h.next fun _ => pure rfl

theorem attempt {x : Act σ α} {y : Act τ β} (h : Alike R E V x y) :
    Alike R E (EndedAlike V) (Act.attempt x) (Act.attempt y) := by
  intro s t hst
  obtain ⟨ht, he, ho⟩ := h s t hst
  exact ⟨ht, he, .returned ho⟩

theorem ite {b : Prop} [Decidable b] {x x' : Act σ α} {y y' : Act τ β}
    (h : Alike R E V x y) (h' : Alike R E V x' y') :
    Alike R E V (if b then x else x') (if b then y else y') := by
  split
  · exact h
  · exact h'

theorem handle {x : Act σ α} {y : Act τ β} {f : Failure → Act σ α}
    {g : Failure → Act τ β} (h : Alike R E V x y)
    (hfg : ∀ e, Alike R E V (f e) (g e)) :
    Alike R E V (Act.handle x f) (Act.handle y g) := by
  refine h.attempt.bind ?_
  intro r q hrq
  cases hrq with
  | returned hab => exact pure hab
  | failed e => exact hfg e

theorem ensure {x : Act σ α} {y : Act τ β} {f : Act σ Unit} {g : Act τ Unit}
    (h : Alike R E V x y) (hfg : Alike R E Eq f g) :
    Alike R E V (Act.ensure x f) (Act.ensure y g) := by
  refine h.attempt.bind ?_
  intro r q hrq
  refine hfg.next fun _ => ?_
  cases hrq with
  | returned hab => exact pure hab
  | failed e => exact fail e

theorem onFault {x : Act σ α} {y : Act τ β} {f : Act σ Unit} {g : Act τ Unit}
    (h : Alike R E V x y) (hfg : Alike R E Eq f g) :
    Alike R E V (Act.onFault x f) (Act.onFault y g) := by
  refine h.handle fun e => ?_
  cases e with
  | fault _ => exact hfg.next fun _ => fail _
  | _ => exact (pure rfl).next fun _ => fail _

theorem forEach {xs : List γ} {f : γ → Act σ Unit} {g : γ → Act τ Unit}
    (h : ∀ x ∈ xs, Alike R E Eq (f x) (g x)) :
    Alike R E Eq (Act.forEach xs f) (Act.forEach xs g) := by
  induction xs with
  | nil => exact pure rfl
  | cons x rest ih =>
    exact (h x List.mem_cons_self).next fun _ => ih fun y hy =>
      h y (List.mem_cons_of_mem _ hy)

theorem look {f : σ → Act σ γ} {g : σ → Act σ δ}
    (h : ∀ s, I s → Alike (Same I) E W (f s) (g s)) :
    Alike (Same I) E W (Act.get >>= f) (Act.get >>= g) := by
  refine get.bind ?_
  rintro s _ ⟨rfl, hs⟩
  exact h s hs

theorem change {f : σ → σ} (h : ∀ s, I s → I (f s)) :
    Alike (Same I) E Eq (Act.modify f) (Act.modify f) := by
  refine modify ?_
  rintro s _ ⟨rfl, hs⟩
  exact ⟨rfl, h s hs⟩

end Alike

end Act

/-! ## Observed states -/

/-- Observed states that are the same but for the rest, which belongs
together. -/
structure Observed.Alike (R : σ → τ → Prop) (s : Observed σ)
    (t : Observed τ) : Prop where
  telemetry : s.telemetry = t.telemetry
  clock : s.clock = t.clock
  world : R s.world t.world

theorem Observed.Alike.eq {I : σ → Prop} {s t : Observed σ}
    (h : Observed.Alike (Same I) s t) :
    s = t := by
  obtain ⟨ht, hc, hw, -⟩ := h
  rcases s with ⟨telemetry, clock, world⟩
  rcases t with ⟨telemetry', clock', world'⟩
  rw [Observed.mk.injEq]
  exact ⟨ht, hc, hw⟩

variable {R : σ → τ → Prop} {E : Event → Event → Prop} {V : α → β → Prop}

theorem Act.Alike.within {x : Act σ α} {y : Act τ β} (h : Act.Alike R E V x y) :
    Act.Alike (Observed.Alike R) E V x.within y.within := by
  rintro s t ⟨ht, hc, hw⟩
  obtain ⟨hw', he, ho⟩ := h s.world t.world hw
  rw [run_within, run_within]
  exact ⟨⟨ht, hc, hw'⟩, he, ho⟩

namespace Telemetry

open Act (Alike)

theorem alike_readClock :
    Alike (Observed.Alike R) E Eq (readClock : Act (Observed σ) Reading)
      (readClock : Act (Observed τ) Reading) := by
  rintro ⟨telemetry, clock, world⟩ ⟨_, _, world'⟩ ⟨rfl, rfl, hw⟩
  cases clock with
  | nil => exact ⟨⟨rfl, rfl, hw⟩, .nil, .returned rfl⟩
  | cons now later => exact ⟨⟨rfl, rfl, hw⟩, .nil, .returned rfl⟩

theorem alike_setAttribute (key : String) (value : Datum) :
    Alike (Observed.Alike R)
      E Eq (setAttribute key value : Act (Observed σ) Unit)
      (setAttribute key value : Act (Observed τ) Unit) := by
  refine .modify ?_
  rintro s t ⟨ht, hc, hw⟩
  exact ⟨by rw [ht], hc, hw⟩

theorem alike_elapsed (start : Reading) :
    Alike (Observed.Alike R) E Eq (elapsed start : Act (Observed σ) Datum)
      (elapsed start : Act (Observed τ) Datum) := by
  refine alike_readClock.next fun now => ?_
  cases start.since? now with
  | some seconds => exact .pure rfl
  | none => exact .fail _

variable (hE : ∀ text, E (.log .info text) (.log .info text))
include hE

theorem alike_record (operation : String) (phase : Phase)
    (extra : List (String × Datum)) :
    Alike (Observed.Alike R)
      E Eq (record operation phase extra : Act (Observed σ) Unit)
      (record operation phase extra : Act (Observed τ) Unit) := by
  have noted (s : Observed σ) (t : Observed τ) (h : Observed.Alike R s t) :
      Observed.Alike R
        { s with
          telemetry.records := s.telemetry.records ++ [(operation, phase)] }
        { t with
          telemetry.records := t.telemetry.records ++ [(operation, phase)] } :=
    ⟨by rw [h.telemetry], h.clock, h.world⟩
  refine (Alike.modify noted).next fun _ => Alike.get.bind fun s t h => ?_
  rw [h.telemetry]
  exact .emit (hE _)

theorem alike_during (operation : String) {x : Act (Observed σ) α}
    {y : Act (Observed τ) β} (h : Alike (Observed.Alike R) E V x y) :
    Alike (Observed.Alike R) E V (during operation x) (during operation y) := by
  refine (alike_record hE _ _ _).next fun _ => alike_readClock.next fun start =>
    h.attempt.bind ?_
  intro r q hrq
  cases hrq with
  | returned hab =>
    exact (alike_elapsed start).next fun _ =>
      (alike_record hE _ _ _).next fun _ => .pure hab
  | failed e =>
    exact (alike_elapsed start).next fun _ =>
      (alike_record hE _ _ _).next fun _ => .fail e

end Telemetry

end SingleNode
