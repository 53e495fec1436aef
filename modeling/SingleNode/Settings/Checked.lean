/-
# Values that have been checked

A check gives a value or complaints. Checks of several fields run side by side:
all complaints are kept, in the order of the fields, and there is a value only
if no field has a complaint.
-/
import SingleNode.Settings.Complaint

namespace SingleNode.Settings

/-- The result of a check. -/
inductive Checked (α : Type)
  | valid (value : α)
  | invalid (complaints : List Complaint)

namespace Checked

variable {α β : Type}

protected def map (f : α → β) : Checked α → Checked β
  | .valid a => .valid (f a)
  | .invalid cs => .invalid cs

protected def seq (f : Checked (α → β)) (x : Checked α) : Checked β :=
  match f, x with
  | .valid f, .valid a => .valid (f a)
  | .valid _, .invalid cs => .invalid cs
  | .invalid cs, .valid _ => .invalid cs
  | .invalid cs, .invalid ds => .invalid (cs ++ ds)

instance : Applicative Checked where
  map := Checked.map
  pure := Checked.valid
  seq f x := Checked.seq f (x ())

/-- The complaints of a check, none if it gave a value. -/
def complaints : Checked α → List Complaint
  | .valid _ => []
  | .invalid cs => cs

/-- The value, or the report for a group of settings. -/
def report (group : String) : Checked α → Except Invalid α
  | .valid a => .ok a
  | .invalid cs => .error { group, complaints := cs }

@[simp] theorem complaints_map (f : α → β) (x : Checked α) :
    (f <$> x).complaints = x.complaints := by
  cases x <;> rfl

@[simp] theorem complaints_seq (f : Checked (α → β)) (x : Checked α) :
    (f <*> x).complaints = f.complaints ++ x.complaints := by
  cases f <;> cases x <;> simp [Seq.seq, Checked.seq, complaints]

end Checked

end SingleNode.Settings
