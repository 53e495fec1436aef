/-
# The deeds of an action

Prints, panels and log records tell the user what goes on; every other event is
a deed: a command, a request to the engine, a port that is tried, a page that is
opened.  `x.silent` is the action `x` without what it tells.  It keeps the state
and the outcome, and since it passes through every way of putting actions
together, the silent version of a workflow is the workflow with its messages
struck out.  The relations of the later modules ("a run of this kind does these
deeds") are about silent runs.

The second group is about runs: what handlers, cleanups and actions in sequence
come to.
-/
import SingleNode.Telemetry

namespace SingleNode

/-- Holds for an event that only tells the user something. -/
def Event.isMessage : Event → Bool
  | .print _ | .panel .. | .log .. => true
  | _ => false

/-- The events that are not messages. -/
def deeds (es : List Event) : List Event :=
  es.filter fun e => !e.isMessage

@[simp] theorem deeds_nil : deeds [] = [] := rfl

@[simp] theorem deeds_append (es fs : List Event) :
    deeds (es ++ fs) = deeds es ++ deeds fs :=
  List.filter_append ..

theorem mem_deeds {e : Event} {es : List Event} :
    e ∈ deeds es ↔ e ∈ es ∧ e.isMessage = false := by
  simp [deeds, List.mem_filter]

theorem filter_deeds {p : Event → Bool}
    (hp : ∀ e, p e = true → e.isMessage = false) (es : List Event) :
    (deeds es).filter p = es.filter p := by
  simp only [deeds, List.filter_filter]
  refine List.filter_congr fun e _ => ?_
  cases h : p e with
  | false => simp
  | true => simp [hp e h]

theorem countP_deeds {p : Event → Bool}
    (hp : ∀ e, p e = true → e.isMessage = false) (es : List Event) :
    (deeds es).countP p = es.countP p := by
  rw [List.countP_eq_length_filter, List.countP_eq_length_filter,
    filter_deeds hp]

namespace Act

variable {σ α β : Type}

/-- The action without what it tells. -/
def silent (x : Act σ α) : Act σ α := fun s =>
  let r := x s
  { r with events := deeds r.events }

theorem run_silent (x : Act σ α) (s : σ) :
    x.silent.run s =
      ⟨deeds (x.run s).events, (x.run s).state, (x.run s).outcome⟩ := rfl

/-! ## Silence passes through the ways of putting actions together -/

@[simp] theorem silent_pure (a : α) : (pure a : Act σ α).silent = pure a := rfl

@[simp] theorem silent_fail (e : Failure) :
    (fail e : Act σ α).silent = fail e := rfl

@[simp] theorem silent_bind (x : Act σ α) (f : α → Act σ β) :
    (x >>= f).silent = x.silent >>= fun a => (f a).silent := by
  funext s
  change (x >>= f).silent.run s = (x.silent >>= fun a => (f a).silent).run s
  rw [run_silent, run_bind, run_bind, run_silent]
  rcases x.run s with ⟨es, t, e | a⟩
  · rfl
  · simp [run_silent]

@[simp] theorem silent_map (f : α → β) (x : Act σ α) :
    (f <$> x).silent = f <$> x.silent := by
  simp only [map_eq_pure_bind, silent_bind, silent_pure]

@[simp] theorem silent_attempt (x : Act σ α) :
    (attempt x).silent = attempt x.silent := rfl

@[simp] theorem silent_handle (x : Act σ α) (handler : Failure → Act σ α) :
    (handle x handler).silent = handle x.silent fun e =>
      (handler e).silent := by
  simp only [handle, silent_bind, silent_attempt]
  refine congrArg _ (funext fun r => ?_)
  cases r <;> rfl

@[simp] theorem silent_onFault (x : Act σ α) (also : Act σ Unit) :
    (onFault x also).silent = onFault x.silent also.silent := by
  simp only [onFault, silent_handle]
  refine congrArg _ (funext fun e => ?_)
  cases e <;> simp

@[simp] theorem silent_ofExcept (r : Except Failure α) :
    (ofExcept r : Act σ α).silent = ofExcept r := rfl

@[simp] theorem silent_ofFault (r : Except Fault α) :
    (ofFault r : Act σ α).silent = ofFault r := by
  cases r <;> rfl

@[simp] theorem silent_get : (get : Act σ σ).silent = get := rfl

@[simp] theorem silent_modify (f : σ → σ) : (modify f).silent = modify f := rfl

@[simp] theorem silent_ite (b : Prop) [Decidable b] (x y : Act σ α) :
    (if b then x else y).silent = if b then x.silent else y.silent := by
  split <;> rfl

@[simp] theorem silent_within (x : Act σ α) :
    x.within.silent = x.silent.within := rfl

@[simp] theorem silent_forEach (xs : List β) (f : β → Act σ Unit) :
    (forEach xs f).silent = forEach xs fun x => (f x).silent := by
  induction xs with
  | nil => rfl
  | cons x rest ih => simp [forEach, ih]

/-! ## Messages are struck out -/

@[simp] theorem silent_print (text : String) :
    (print text : Act σ Unit).silent = pure () := rfl

@[simp] theorem silent_debug (text : String) :
    (debug text : Act σ Unit).silent = pure () := rfl

@[simp] theorem silent_stage (text : String) :
    (emit (.stage text) : Act σ Unit).silent = pure () := rfl

@[simp] theorem onFault_pure (x : Act σ α) : onFault x (pure ()) = x := by
  funext s
  change (onFault x (pure ())).run s = x.run s
  simp only [onFault, handle, run_bind, run_attempt]
  rcases x.run s with ⟨es, t, e | a⟩
  · cases e <;> simp
  · simp

/-! ## Runs of actions in sequence -/

@[simp] theorem fail_bind (e : Failure) (f : α → Act σ β) :
    fail e >>= f = fail e := rfl

/-- A handler goes on from where the action failed. -/
theorem run_handle (x : Act σ α) (handler : Failure → Act σ α) (s : σ) :
    (handle x handler).run s =
      match x.run s with
      | ⟨es, t, .ok a⟩ => ⟨es, t, .ok a⟩
      | ⟨es, t, .error e⟩ =>
        ⟨es ++ ((handler e).run t).events, ((handler e).run t).state,
          ((handler e).run t).outcome⟩ := by
  simp only [handle, run_bind, run_attempt]
  rcases x.run s with ⟨es, t, e | a⟩
  · rfl
  · simp

theorem run_handle_fail (x : Act σ α) {handler : Failure → Act σ α}
    (g : Failure → Failure) (s : σ) (hg : ∀ e, handler e = fail (g e)) :
    (handle x handler).run s =
      ⟨(x.run s).events, (x.run s).state, (x.run s).outcome.mapError g⟩ := by
  rw [run_handle]
  rcases x.run s with ⟨es, t, e | a⟩
  · dsimp only
    rw [hg, run_fail, List.append_nil]
    rfl
  · rfl

/-- What is done in the end is done in any case. -/
theorem run_ensure (x : Act σ α) (cleanup : Act σ Unit) (s : σ) :
    (ensure x cleanup).run s =
      let r := x.run s
      let q := cleanup.run r.state
      match q.outcome with
      | .ok _ => ⟨r.events ++ q.events, q.state, r.outcome⟩
      | .error e => ⟨r.events ++ q.events, q.state, .error e⟩ := by
  simp only [ensure, run_bind, run_attempt]
  rcases x.run s with ⟨es, t, e | a⟩ <;> rcases cleanup.run t
    with ⟨fs, u, e' | _⟩ <;> simp

theorem run_ensure_eq_ok {x : Act σ α} {cleanup : Act σ Unit} {s : σ} {a : α}
    (h : ((ensure x cleanup).run s).outcome = .ok a) :
    (x.run s).outcome = .ok a ∧ ((ensure x cleanup).run s).events =
      (x.run s).events ++ (cleanup.run (x.run s).state).events := by
  rw [run_ensure] at h ⊢
  dsimp only at h ⊢
  split at h
  · exact ⟨h, by simp [*]⟩
  · exact nomatch h

theorem run_ofFault (r : Except Fault α) (s : σ) :
    (ofFault r : Act σ α).run s =
      match r with
      | .ok a => ⟨[], s, .ok a⟩
      | .error f => ⟨[], s, .error (.fault f)⟩ := by
  cases r <;> rfl

@[simp] theorem run_within (x : Act σ α) (s : Observed σ) :
    x.within.run s =
      ⟨(x.run s.world).events, { s with world := (x.run s.world).state },
        (x.run s.world).outcome⟩ := rfl

theorem handle_fail (x : Act σ α) : handle x fail = x := by
  funext s
  change (handle x fail).run s = x.run s
  rw [run_handle]
  rcases x.run s with ⟨es, t, e | a⟩
  · simp
  · rfl

theorem forEach_append (xs ys : List β) (f : β → Act σ Unit) :
    forEach (xs ++ ys) f = forEach xs f >>= fun _ => forEach ys f := by
  induction xs with
  | nil => simp [forEach]
  | cons x rest ih => simp [forEach, ih]

theorem forEach_map (xs : List α) (g : α → β) (f : β → Act σ Unit) :
    forEach (xs.map g) f = forEach xs fun x => f (g x) := by
  induction xs with
  | nil => rfl
  | cons x rest ih => rw [List.map_cons, forEach, forEach, ih]

theorem forEach_congr {xs : List β} {f g : β → Act σ Unit}
    (h : ∀ x ∈ xs, f x = g x) :
    forEach xs f = forEach xs g := by
  induction xs with
  | nil => rfl
  | cons x rest ih =>
    rw [forEach, forEach, h x List.mem_cons_self, ih fun y hy =>
      h y (List.mem_cons_of_mem _ hy)]

end Act

end SingleNode
