/-
# What a run leaves behind

`x.Traces P` says that `P s es t` holds of every run of `x`: it started in the
state `s`, its events are `es`, and it ended in the state `t`.  If `P` can be
put together (`Tracing`: it holds where nothing was done, and of two parts it
holds of the whole), the rules follow the ways of putting actions together.
-/
import SingleNode.Proofs.Act.Deeds

namespace SingleNode.Act

variable {σ α β : Type}

/-- The relation holds between the start, the events and the end of every
run. -/
def Traces (P : σ → List Event → σ → Prop) (x : Act σ α) : Prop :=
  ∀ s, P s (x.run s).events (x.run s).state

/-- The relation holds if nothing is done, and of what is put together from
parts of which it holds. -/
structure Tracing (P : σ → List Event → σ → Prop) : Prop where
  nil : ∀ s, P s [] s
  append : ∀ {s t u : σ} {es fs : List Event}, P s es t → P t fs u →
    P s (es ++ fs) u

theorem traces_emit {P : σ → List Event → σ → Prop} {e : Event}
    (h : ∀ s, P s [e] s) :
    (emit e : Act σ Unit).Traces P := h

theorem traces_modify {P : σ → List Event → σ → Prop} {f : σ → σ}
    (h : ∀ s, P s [] (f s)) :
    (modify f).Traces P := h

namespace Tracing

variable {P : σ → List Event → σ → Prop} (h : Tracing P)
include h

theorem pure (a : α) : (pure a : Act σ α).Traces P := h.nil

theorem fail (e : Failure) : (Act.fail e : Act σ α).Traces P := h.nil

theorem ofExcept (r : Except Failure α) : (Act.ofExcept r : Act σ α).Traces P :=
  h.nil

theorem get : (Act.get : Act σ σ).Traces P := h.nil

theorem bind {x : Act σ α} {f : α → Act σ β} (hx : x.Traces P)
    (hf : ∀ a, (f a).Traces P) :
    (x >>= f).Traces P := by
  intro s
  have hs : P s (x.run s).events (x.run s).state := hx s
  rcases hr : x.run s with ⟨es, t, e | a⟩
  · rw [hr] at hs
    rw [run_bind_error hr]
    exact hs
  · rw [hr] at hs
    rw [run_bind_ok hr]
    exact h.append hs (hf a t)

omit h in
theorem attempt {x : Act σ α} (hx : x.Traces P) : (Act.attempt x).Traces P :=
  fun s => hx s

omit h in
theorem ite {b : Prop} [Decidable b] {x y : Act σ α} (hx : x.Traces P)
    (hy : y.Traces P) :
    (if b then x else y).Traces P := by
  split
  · exact hx
  · exact hy

theorem handle {x : Act σ α} {f : Failure → Act σ α} (hx : x.Traces P)
    (hf : ∀ e, (f e).Traces P) : (Act.handle x f).Traces P := by
  refine h.bind (attempt hx) fun r => ?_
  cases r with
  | error e => exact hf e
  | ok a => exact h.pure a

theorem onFault {x : Act σ α} {also : Act σ Unit} (hx : x.Traces P)
    (ha : also.Traces P) :
    (Act.onFault x also).Traces P := by
  refine h.handle hx fun e => ?_
  cases e with
  | fault f => exact h.bind ha fun _ => h.fail _
  | _ => exact h.fail _

theorem forEach {xs : List β} {f : β → Act σ Unit}
    (hf : ∀ x ∈ xs, (f x).Traces P) :
    (Act.forEach xs f).Traces P := by
  induction xs with
  | nil => exact h.pure ()
  | cons x rest ih =>
    exact h.bind (hf x List.mem_cons_self) fun _ => ih fun y hy =>
      hf y (List.mem_cons_of_mem _ hy)

end Tracing

/-- What is traced of a run is traced of its deeds, if messages do not count. -/
theorem Traces.silent {P : σ → List Event → σ → Prop} {x : Act σ α}
    (hx : x.Traces P) (hd : ∀ s es t, P s es t → P s (deeds es) t) :
    x.silent.Traces P :=
  fun s => hd s _ _ (hx s)

/-- The action does not leave the states with the property. -/
def Keeps (I : σ → Prop) (x : Act σ α) : Prop := ∀ s, I s → I (x.run s).state

theorem tracing_keeps (I : σ → Prop) : Tracing fun s _ t => I s → I t where
  nil _ := id
  append hst htu hs := htu (hst hs)

end SingleNode.Act
