/-
# Actions

An action takes a state, produces events in order, and ends with a new state and
a value or a failure. State and events are kept when it fails. Events are
appended, never changed: what an action did before a failure stays on record
whoever handles the failure.
-/
import SingleNode.Event

namespace SingleNode

/-- What an action did and how it ended. -/
structure Report (σ α : Type) where
  events : List Event
  state : σ
  outcome : Except Failure α

/-- An action on a state. -/
def Act (σ α : Type) : Type := σ → Report σ α

namespace Act

variable {σ α β : Type}

def run (x : Act σ α) (s : σ) : Report σ α := x s

protected def pure (a : α) : Act σ α := fun s => ⟨[], s, .ok a⟩

/-- One action and then another; the second runs only if the first returns. -/
protected def bind (x : Act σ α) (f : α → Act σ β) : Act σ β := fun s =>
  let r := x s
  match r.outcome with
  | .ok a =>
    let q := f a r.state
    ⟨r.events ++ q.events, q.state, q.outcome⟩
  | .error e => ⟨r.events, r.state, .error e⟩

instance : Monad (Act σ) where
  pure := Act.pure
  bind := Act.bind

/-- Ends with a failure. -/
def fail (e : Failure) : Act σ α := fun s => ⟨[], s, .error e⟩

/-- Runs an action and returns how it ended. -/
def attempt (x : Act σ α) : Act σ (Except Failure α) := fun s =>
  let r := x s
  ⟨r.events, r.state, .ok r.outcome⟩

/-- Runs an action; if it fails, the handler decides how to go on. -/
def handle (x : Act σ α) (handler : Failure → Act σ α) : Act σ α := do
  match ← attempt x with
  | .ok a => pure a
  | .error e => handler e

/-- Runs an action and then another one, however the first ended, and ends as
the first did. -/
def ensure (x : Act σ α) (cleanup : Act σ Unit) : Act σ α := do
  let outcome ← attempt x
  cleanup
  match outcome with
  | .ok a => pure a
  | .error e => fail e

/-- Runs an action; if it ends with a fault, does one more thing before failing
with the same fault. -/
def onFault (x : Act σ α) (also : Act σ Unit) : Act σ α :=
  handle x fun e => do
    match e with
    | .fault _ => also
    | _ => pure ()
    fail e

/-- Returns a result that is already there. -/
def ofExcept (r : Except Failure α) : Act σ α := fun s => ⟨[], s, r⟩

/-- Returns the result of a check that fails with a fault. -/
def ofFault (r : Except Fault α) : Act σ α :=
  match r with
  | .ok a => pure a
  | .error f => fail (.fault f)

/-- Puts an event on record. -/
def emit (e : Event) : Act σ Unit := fun s => ⟨[e], s, .ok ()⟩

/-- Prints a text. The call is what is recorded, and it is taken to return,
whatever markup the text has. -/
def print (text : String) : Act σ Unit := emit (.print text)

def debug (text : String) : Act σ Unit := emit (.log .debug text)

def info (text : String) : Act σ Unit := emit (.log .info text)

def get : Act σ σ := fun s => ⟨[], s, .ok s⟩

def modify (f : σ → σ) : Act σ Unit := fun s => ⟨[], f s, .ok ()⟩

/-- Does something for each member of a list, in order. -/
def forEach (xs : List α) (f : α → Act σ Unit) : Act σ Unit :=
  match xs with
  | [] => pure ()
  | x :: rest => do
    f x
    forEach rest f

@[simp] theorem run_pure (a : α) (s : σ) :
    (pure a : Act σ α).run s = ⟨[], s, .ok a⟩ := rfl

@[simp] theorem run_fail (e : Failure) (s : σ) :
    (fail e : Act σ α).run s = ⟨[], s, .error e⟩ := rfl

@[simp] theorem run_emit (e : Event) (s : σ) :
    (emit e).run s = ⟨[e], s, .ok ()⟩ := rfl

@[simp] theorem run_attempt (x : Act σ α) (s : σ) :
    (attempt x).run s =
      ⟨(x.run s).events, (x.run s).state, .ok (x.run s).outcome⟩ := rfl

@[simp] theorem run_ofExcept (r : Except Failure α) (s : σ) :
    (ofExcept r : Act σ α).run s = ⟨[], s, r⟩ := rfl

@[simp] theorem run_get (s : σ) : (get : Act σ σ).run s = ⟨[], s, .ok s⟩ := rfl

@[simp] theorem run_modify (f : σ → σ) (s : σ) :
    (modify f).run s = ⟨[], f s, .ok ()⟩ := rfl

theorem run_bind (x : Act σ α) (f : α → Act σ β) (s : σ) :
    (x >>= f).run s =
      match (x.run s).outcome with
      | .ok a =>
        ⟨(x.run s).events ++ ((f a).run (x.run s).state).events,
          ((f a).run (x.run s).state).state,
          ((f a).run (x.run s).state).outcome⟩
      | .error e => ⟨(x.run s).events, (x.run s).state, .error e⟩ := rfl

/-- An action that returns hands its value, its state and its events on. -/
theorem run_bind_ok {x : Act σ α} {f : α → Act σ β} {s t : σ} {es : List Event}
    {a : α} (h : x.run s = ⟨es, t, .ok a⟩) :
    (x >>= f).run s = ⟨es ++ ((f a).run t).events, ((f a).run t).state,
      ((f a).run t).outcome⟩ := by
  rw [run_bind, h]

theorem run_bind_error {x : Act σ α} {f : α → Act σ β} {s t : σ}
    {es : List Event} {e : Failure} (h : x.run s = ⟨es, t, .error e⟩) :
    (x >>= f).run s = ⟨es, t, .error e⟩ := by
  rw [run_bind, h]

instance : LawfulMonad (Act σ) := LawfulMonad.mk' _
  (fun x => by
    funext s
    change (x >>= fun a => pure (id a)).run s = x.run s
    rw [run_bind]
    rcases x.run s with ⟨es, t, e | a⟩ <;> simp)
  (fun a f => by
    funext s
    change (pure a >>= f).run s = (f a).run s
    rw [run_bind_ok (run_pure a s)]
    simp)
  (fun x f g => by
    funext s
    change (x >>= f >>= g).run s = (x >>= fun a => f a >>= g).run s
    rw [run_bind, run_bind, run_bind]
    rcases x.run s with ⟨es, t, e | a⟩
    · rfl
    · simp only [run_bind]
      rcases (f a).run t with ⟨es', t', e | b⟩
      · rfl
      · simp)

end Act

end SingleNode
