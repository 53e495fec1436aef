/-
# Mappings whose ports are numerals

Reading the mappings that a container engine reports never fails, and comes to
the first port that one of them gives (`first_of_listed`).  A mapping that gives
none is idle: what is no numeral and what is out of range are passed over alike.

So idle mappings do not count.  Lists that are the same but for some of these
(`SameButIdle`) read the same, wherever they stand, and a mapping that gives a
port and is put in front of all others is the one that counts.
-/
import SingleNode.Proofs.Port

namespace SingleNode.HostPort

/-- The mapping has no port or one that is a text, and gives none. -/
def IsIdle (mapping : Assoc Datum) : Prop :=
  IsTextual mapping ∧ IsSilent mapping

/-- The lists have the same mappings in the same order, but for idle ones
anywhere in either. -/
inductive SameButIdle : List (Assoc Datum) → List (Assoc Datum) → Prop
  | nil : SameButIdle [] []
  | both (mapping : Assoc Datum) {xs ys : List (Assoc Datum)} :
      SameButIdle xs ys → SameButIdle (mapping :: xs) (mapping :: ys)
  | left {mapping : Assoc Datum} {xs ys : List (Assoc Datum)} :
      IsIdle mapping → SameButIdle xs ys → SameButIdle (mapping :: xs) ys
  | right {mapping : Assoc Datum} {xs ys : List (Assoc Datum)} :
      IsIdle mapping → SameButIdle xs ys → SameButIdle xs (mapping :: ys)

theorem IsIdle.isPassed {mapping : Assoc Datum} (h : IsIdle mapping) :
    IsPassed mapping := by
  rcases h.1.cases with ⟨port, hg⟩ | ⟨hp, -⟩
  · exact absurd hg (h.2 port)
  · exact hp

/-- Idle mappings change nothing about what is read. -/
theorem SameButIdle.first_eq {xs ys : List (Assoc Datum)}
    (h : SameButIdle xs ys) : first xs = first ys := by
  induction h with
  | nil => rfl
  | both mapping _ ih => rw [first, first, ih]
  | left hidle _ ih => rw [first_cons_of_isPassed hidle.isPassed, ih]
  | right hidle _ ih => rw [first_cons_of_isPassed hidle.isPassed, ih]

/-- What is read from mappings, if there are any and their ports are texts.
Reading returns, with the first port that is given, if one is.  Idle mappings
that are put in or taken out anywhere make no difference, and a mapping that
gives a port comes before all that it is put in front of. -/
theorem first_of_listed {listed : Option (List (Assoc Datum))}
    (h : ∀ m ∈ listed.getD [], IsTextual m) :
    let mappings := listed.getD []
    (∃ found, first mappings = .ok found) ∧
      ((∃ port, first mappings = .ok (some port)) ↔
        ∃ m ∈ mappings, ∃ port, Gives m port) ∧
      (∀ port, first mappings = .ok (some port) ↔
        IsFirst Gives IsSilent mappings port) ∧
      (∀ others, SameButIdle mappings others → first others = first mappings) ∧
      ∀ m port, Gives m port → first (m :: mappings) = .ok (some port) := by
  intro mappings
  have given (port : Int) : first mappings = .ok (some port) ↔
      IsFirst Gives IsSilent mappings port := by
    constructor
    · intro hf
      rcases first_of_textual h with ⟨port', hf', hg⟩ | ⟨hf', -⟩
      · obtain rfl := Option.some.inj (Except.ok.inj (hf.symm.trans hf'))
        exact hg
      · cases hf.symm.trans hf'
    · intro hg
      refine (first_eq_some_iff mappings port).mpr
        (hg.mono (fun m _ => Gives.names) ?_)
      intro m hm hs
      exact IsIdle.isPassed ⟨h m hm, hs⟩
  refine ⟨?_, ?_, given, ?_, ?_⟩
  · rcases first_of_textual h with ⟨port, hf, -⟩ | ⟨hf, -⟩
    · exact ⟨_, hf⟩
    · exact ⟨_, hf⟩
  · constructor
    · rintro ⟨port, hf⟩
      obtain ⟨m, hm, hg⟩ := ((given port).mp hf).exists_mem
      exact ⟨m, hm, port, hg⟩
    · rintro ⟨m, hm, port, hg⟩
      rcases first_of_textual h with ⟨found, hf, -⟩ | ⟨-, hnone⟩
      · exact ⟨found, hf⟩
      · exact absurd hg (hnone m hm port)
  · intro others hsame
    exact hsame.first_eq.symm
  · intro m port hg
    exact first_cons_of_names hg.names mappings

/-- A mapping without a port, one out of range, and one whose port is written in
Arabic digits. -/
def mixedMappings : List (Assoc Datum) :=
  [[("HostIp", .text "::")], [("HostPort", .text "70000")],
    [("HostPort", .text " +٨_٠٠٢ ")], [("HostPort", .text "9000")]]

theorem isFirst_mixedMappings : IsFirst Gives IsSilent mixedMappings 8002 := by
  refine ⟨[[("HostIp", .text "::")], [("HostPort", .text "70000")]],
    [("HostPort", .text " +٨_٠٠٢ ")],
    [[("HostPort", .text "9000")]], rfl, ?_, ?_⟩
  · exact ⟨_, rfl,
      Text.readInteger?_eq_some_iff.mp (by decide +kernel), by omega, by omega⟩
  rintro m hm p ⟨text, ht, hn, -, hle⟩
  simp only [List.mem_cons, List.not_mem_nil, or_false] at hm
  rcases hm with rfl | rfl
  · cases ht
  · obtain rfl := Datum.text.inj (Option.some.inj ht)
    have hread : Text.readInteger? "70000" = some 70000 := by decide +kernel
    obtain rfl :=
      Option.some.inj (hread.symm.trans (Text.readInteger?_eq_some_iff.mpr hn))
    omega

/-- What is read from these is 8002. -/
theorem first_of_listed_mixedMappings :
    (∀ m ∈ mixedMappings, IsTextual m) ∧
      IsFirst Gives IsSilent mixedMappings 8002 ∧
      first mixedMappings = .ok (some 8002) := by
  have htextual : ∀ m ∈ mixedMappings, IsTextual m := by
    intro m hm d hd
    simp only [mixedMappings, List.mem_cons, List.not_mem_nil, or_false] at hm
    rcases hm with rfl | rfl | rfl | rfl
    · cases hd
    · exact ⟨_, (Option.some.inj hd).symm⟩
    · exact ⟨_, (Option.some.inj hd).symm⟩
    · exact ⟨_, (Option.some.inj hd).symm⟩
  have hlisted : ∀ m ∈ (some mixedMappings).getD [], IsTextual m := htextual
  obtain ⟨-, -, hgiven, -⟩ := first_of_listed hlisted
  exact ⟨htextual, isFirst_mixedMappings,
    (hgiven 8002).mpr isFirst_mixedMappings⟩

end SingleNode.HostPort
