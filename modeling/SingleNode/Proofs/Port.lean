/-
# The first usable host port

Reading a host port goes through the mappings in order and takes the first that
names a usable port.  `IsFirst` says so without going through anything, and
`first_eq_some_iff` that the two agree.  A mapping whose port is of a type
without a number ends the reading, so none of those before the first usable one
is of that kind.

A container engine tells its ports as texts.  Then the reading never fails, and
there is nothing to be said of types: a mapping gives a port if its text is the
numeral of a number from 1 to 65535 (`Gives`), and the reading comes to the
first that does (`first_of_textual`).
-/
import SingleNode.Port
import SingleNode.Proofs.Text.Numeral

namespace SingleNode.HostPort

/-! ## Firsts -/

/-- A mapping tells the port, and all mappings before it are passed over. -/
def IsFirst (tells : Assoc Datum → Int → Prop) (passed : Assoc Datum → Prop)
    (mappings : List (Assoc Datum)) (port : Int) : Prop :=
  ∃ before mapping rest, mappings = before ++ mapping :: rest ∧
    tells mapping port ∧
    ∀ m ∈ before, passed m

section IsFirst

variable {tells tells' : Assoc Datum → Int → Prop}
  {passed passed' : Assoc Datum → Prop}
  {mapping : Assoc Datum} {mappings : List (Assoc Datum)} {port : Int}

theorem IsFirst.not_nil : ¬IsFirst tells passed [] port := by
  rintro ⟨before, m, rest, h, -⟩
  exact absurd h.symm
    (List.append_ne_nil_of_right_ne_nil _ (List.cons_ne_nil _ _))

theorem IsFirst.cons_iff : IsFirst tells passed (mapping :: mappings) port ↔
    tells mapping port ∨
      passed mapping ∧ IsFirst tells passed mappings port := by
  constructor
  · rintro ⟨before, m, more, heq, hn, hb⟩
    cases before with
    | nil =>
      obtain ⟨rfl, rfl⟩ := List.cons.inj heq
      exact .inl hn
    | cons b before =>
      obtain ⟨rfl, rfl⟩ := List.cons.inj heq
      exact .inr ⟨hb _ List.mem_cons_self, before, m, more, rfl, hn,
        fun x hx => hb x (List.mem_cons_of_mem _ hx)⟩
  · rintro (hn | ⟨hp, before, m, more, rfl, hn, hb⟩)
    · exact ⟨[], mapping, mappings, rfl, hn, fun _ hm => nomatch hm⟩
    · refine ⟨mapping :: before, m, more, rfl, hn, ?_⟩
      intro x hx
      rcases List.mem_cons.mp hx with rfl | hx
      · exact hp
      · exact hb x hx

theorem IsFirst.exists_mem (h : IsFirst tells passed mappings port) :
    ∃ m ∈ mappings, tells m port := by
  obtain ⟨before, mapping, rest, rfl, hm, -⟩ := h
  exact ⟨mapping, List.mem_append_right _ List.mem_cons_self, hm⟩

theorem IsFirst.mono (ht : ∀ m ∈ mappings, tells m port → tells' m port)
    (hp : ∀ m ∈ mappings, passed m → passed' m)
    (h : IsFirst tells passed mappings port) :
    IsFirst tells' passed' mappings port := by
  obtain ⟨before, mapping, rest, rfl, hm, hb⟩ := h
  refine ⟨before, mapping, rest, rfl, ht mapping (by simp) hm, ?_⟩
  intro m hmem
  exact hp m (List.mem_append_left _ hmem) (hb m hmem)

end IsFirst

/-! ## What is read -/

/-- The mapping names a usable port. -/
def Names (mapping : Assoc Datum) (port : Int) : Prop :=
  number? (mapping.get? "HostPort") = .ok (some port) ∧ isUsable port = true

/-- What the mapping names, if anything, is not a usable port. -/
def IsPassed (mapping : Assoc Datum) : Prop :=
  ∃ named, number? (mapping.get? "HostPort") = .ok named ∧ ∀ n, named = some n →
    isUsable n = false

/-- What is read is the first usable port. -/
theorem first_eq_some_iff (mappings : List (Assoc Datum)) (port : Int) :
    first mappings = .ok (some port) ↔
      IsFirst Names IsPassed mappings port := by
  induction mappings with
  | nil =>
    constructor
    · exact fun h => nomatch h
    · exact fun h => (IsFirst.not_nil h).elim
  | cons mapping rest ih =>
    rw [first, IsFirst.cons_iff, Names, IsPassed]
    cases number? (mapping.get? "HostPort") with
    | error e => simp [bind, Except.bind]
    | ok named =>
      cases named with
      | none => simpa [bind, Except.bind] using ih
      | some n =>
        cases hu : isUsable n with
        | false =>
          have hne : ¬(n = port ∧ isUsable port = true) := by
            rintro ⟨rfl, h⟩
            exact Bool.false_ne_true (hu.symm.trans h)
          simpa [bind, Except.bind, hu, hne] using ih
        | true =>
          have hport : n = port → isUsable port = true := fun h => h ▸ hu
          simpa [bind, Except.bind, pure, Except.pure, hu] using hport

/-! ## Ports that are told as texts -/

/-- The port of the mapping is a text, if it has one. -/
def IsTextual (mapping : Assoc Datum) : Prop :=
  ∀ d, mapping.get? "HostPort" = some d → ∃ text, d = .text text

/-- The port of the mapping is the numeral of a number from 1 to 65535. -/
def Gives (mapping : Assoc Datum) (port : Int) : Prop :=
  ∃ text, mapping.get? "HostPort" = some (.text text) ∧ Text.Numeral text port ∧
    1 ≤ port ∧ port ≤ 65535

/-- The mapping gives no port. -/
def IsSilent (mapping : Assoc Datum) : Prop := ∀ port, ¬Gives mapping port

theorem Gives.names {mapping : Assoc Datum} {port : Int}
    (h : Gives mapping port) :
    Names mapping port := by
  obtain ⟨text, ht, hn, hport⟩ := h
  refine ⟨?_, by simpa [isUsable] using hport⟩
  rw [ht, ← Text.readInteger?_eq_some_iff.mpr hn]
  rfl

theorem IsTextual.cases {mapping : Assoc Datum} (h : IsTextual mapping) :
    (∃ port, Gives mapping port) ∨ IsPassed mapping ∧ IsSilent mapping := by
  cases hd : mapping.get? "HostPort" with
  | none =>
    refine .inr ⟨⟨none, by rw [hd]; rfl, nofun⟩, ?_⟩
    rintro port ⟨text, ht, -⟩
    exact nomatch hd.symm.trans ht
  | some d =>
    obtain ⟨text, rfl⟩ := h d hd
    have hn :
        number? (mapping.get? "HostPort") = .ok (Text.readInteger? text) := by
      rw [hd]
      rfl
    by_cases hu : ∃ port, Text.readInteger? text = some port ∧
      isUsable port = true
    · obtain ⟨port, hp, hu⟩ := hu
      refine .inl ⟨port, text, hd, Text.readInteger?_eq_some_iff.mp hp, ?_⟩
      simpa [isUsable] using hu
    · refine .inr ⟨⟨_, hn, ?_⟩, ?_⟩
      · intro n hr
        exact Bool.eq_false_iff.mpr fun hu' => hu ⟨n, hr, hu'⟩
      · rintro port ⟨text', ht, hr, hb⟩
        obtain rfl : text = text' := by
          rw [hd] at ht
          exact Datum.text.inj (Option.some.inj ht)
        exact hu
          ⟨port,
          Text.readInteger?_eq_some_iff.mpr hr, by simpa [isUsable] using hb⟩

theorem first_cons_of_names {mapping : Assoc Datum} {port : Int}
    (h : Names mapping port) (rest : List (Assoc Datum)) :
    first (mapping :: rest) = .ok (some port) :=
  (first_eq_some_iff _ _).mpr (IsFirst.cons_iff.mpr (.inl h))

theorem first_cons_of_isPassed {mapping : Assoc Datum} (h : IsPassed mapping)
    (rest : List (Assoc Datum)) : first (mapping :: rest) = first rest := by
  obtain ⟨named, hn, hu⟩ := h
  rw [first, hn]
  cases named with
  | none => rfl
  | some n =>
    have hf : ¬isUsable n = true := by
      rw [hu n rfl]
      exact Bool.false_ne_true
    exact if_neg hf

/-- What is read from textual mappings is the first port that is given, if one
is. -/
theorem first_of_textual {mappings : List (Assoc Datum)}
    (h : ∀ m ∈ mappings, IsTextual m) :
    (∃ port, first mappings = .ok (some port) ∧
      IsFirst Gives IsSilent mappings port) ∨
      (first mappings = .ok none ∧ ∀ m ∈ mappings, IsSilent m) := by
  induction mappings with
  | nil => exact .inr ⟨rfl, nofun⟩
  | cons mapping rest ih =>
    rcases (h mapping List.mem_cons_self).cases with ⟨port, hg⟩ | ⟨hp, hs⟩
    · exact .inl ⟨port, first_cons_of_names hg.names rest,
        IsFirst.cons_iff.mpr (.inl hg)⟩
    · rw [first_cons_of_isPassed hp]
      rcases ih fun m hm => h m (List.mem_cons_of_mem _ hm)
        with ⟨port, hf, hr⟩ | ⟨hf, hr⟩
      · exact .inl ⟨port, hf, IsFirst.cons_iff.mpr (.inr ⟨hs, hr⟩)⟩
      · exact .inr ⟨hf, List.forall_mem_cons.mpr ⟨hs, hr⟩⟩

end SingleNode.HostPort
