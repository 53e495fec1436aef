/-
# How an announcement begins

Commands are announced in the log with all their arguments, and one kind of
command has a secret among them.  `Event.NamesSecret` holds for its
announcement.  That another text is none is seen from how it begins.
-/
import SingleNode.Act

namespace SingleNode

theorem append_ne_append {lead lead' : String}
    (h : ¬lead.toList <+: lead'.toList) (h' : ¬lead'.toList <+: lead.toList)
    (rest rest' : String) : lead ++ rest ≠ lead' ++ rest' := by
  intro he
  have hl : lead.toList <+: (lead' ++ rest').toList := by
    rw [← he, String.toList_append]
    exact List.prefix_append _ _
  have hl' : lead'.toList <+: (lead' ++ rest').toList := by
    rw [String.toList_append]
    exact List.prefix_append _ _
  rcases List.prefix_or_prefix_of_prefix hl hl' with hp | hp
  · exact h hp
  · exact h' hp

theorem exists_intercalate_append (mark : String) (words rest : List String) :
    ∃ tail, String.intercalate mark (words ++ rest) =
      String.intercalate mark words ++ tail := by
  induction words with
  | nil => exact ⟨String.intercalate mark rest, by simp⟩
  | cons word words ih =>
    cases words with
    | nil =>
      cases rest with
      | nil => exact ⟨"", by simp⟩
      | cons next rest =>
        exact ⟨mark ++ String.intercalate mark
          (next :: rest), by simp [String.append_assoc]⟩
    | cons next words =>
      obtain ⟨tail, ht⟩ := ih
      refine ⟨tail, ?_⟩
      rw [List.cons_append] at ht
      simp only [List.cons_append, String.intercalate_cons_cons, ht,
        String.append_assoc]

namespace Event

/-- What the announcement of a command begins with that writes out a secret. -/
def secretLead : String := "running: kubectl create secret"

/-- Holds for the announcement of a command that writes out a secret. -/
def NamesSecret (e : Event) : Prop :=
  ∃ rest, e = .log .debug (secretLead ++ rest)

theorem not_namesSecret_of_shows {e : Event} (h : e.showsAt .info = true) :
    ¬e.NamesSecret := by
  rintro ⟨rest, rfl⟩
  exact nomatch h

theorem not_namesSecret_of_lead {lead : String}
    (h : ¬secretLead.toList <+: lead.toList)
    (h' : ¬lead.toList <+: secretLead.toList) (rest : String) :
    ¬(Event.log .debug (lead ++ rest)).NamesSecret := by
  rintro ⟨rest', he⟩
  obtain ⟨-, he⟩ := Event.log.inj he
  exact append_ne_append h' h rest rest' he

end Event

end SingleNode
