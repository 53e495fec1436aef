/-
# The kinds of events of an action

A deed is a command, a page that is opened, or a request of any other sort.
`x.Only p` says that whatever `x` is run on, all its events are of the kind `p`.
It can be put together from the parts of an action (`tracing_only`), so that
what an action can do is read off its parts.
-/
import SingleNode.Proofs.Act.Traces

namespace SingleNode

namespace Event

/-- Holds for a command that is run or was to be run. -/
def isCommand : Event → Bool
  | .run .. | .missingCommand _ => true
  | _ => false

def isBrowser : Event → Bool
  | .browser _ => true
  | _ => false

def program? : Event → Option String
  | .run words _ _ _ => words.head?
  | .missingCommand program => some program
  | _ => none

/-- Holds for what is neither a command nor a page. -/
def IsRequest (e : Event) : Prop := e.isCommand = false ∧ e.isBrowser = false

theorem IsRequest.program? {e : Event} (h : e.IsRequest) :
    e.program? = none := by
  obtain ⟨h, -⟩ := h
  cases e with
  | run | missingCommand => exact nomatch h
  | _ => rfl

variable {es : List Event}

theorem filter_isCommand_of_requests (h : ∀ e ∈ es, e.IsRequest) :
    es.filter isCommand = [] :=
  List.filter_eq_nil_iff.mpr fun e he => by simp [(h e he).1]

theorem filter_isBrowser_of_requests (h : ∀ e ∈ es, e.IsRequest) :
    es.filter isBrowser = [] :=
  List.filter_eq_nil_iff.mpr fun e he => by simp [(h e he).2]

end Event

namespace Act

variable {σ α : Type}

/-- All events of the action are of one kind. -/
def Only (p : Event → Prop) (x : Act σ α) : Prop :=
  ∀ s, ∀ e ∈ (x.run s).events, p e

theorem tracing_only (p : Event → Prop) :
    Tracing fun (_ : σ) es _ => ∀ e ∈ es, p e where
  nil _ := nofun
  append h h' := List.forall_mem_append.mpr ⟨h, h'⟩

end Act

end SingleNode
