/-
# Settings field by field

The settings of a group are checked field by field and side by side.  A field of
a group (`FieldOf`) says which values hold for it and what is taken from each,
and it carries the proof that its check decides this.  What becomes of a field
depends on what is chosen for it and on nothing else: its value is taken, or
there is one complaint about it, or it has its default if nothing is chosen.

`Gathers` is what a check that runs side by side comes to.  From it follow both
main results: what it is to load a group (`Gathers.loads`), and that two loads
agree about every field for which they choose the same (`Gathers.agreeOn`).
-/
import Mathlib.Data.List.Nodup
import SingleNode.Settings.Field

namespace SingleNode.Settings

namespace Checked

variable {α β : Type}

theorem map_eq_valid_iff {f : α → β} {x : Checked α} {b : β} :
    f <$> x = .valid b ↔ ∃ a, x = .valid a ∧ f a = b := by
  cases x with
  | valid a =>
    constructor
    · intro h
      exact ⟨a, rfl, Checked.valid.inj h⟩
    · rintro ⟨_, ⟨⟩, rfl⟩
      rfl
  | invalid cs => exact iff_of_false nofun nofun

theorem seq_eq_valid_iff {g : Checked (α → β)} {x : Checked α} {b : β} :
    g <*> x = .valid b ↔ ∃ f a, g = .valid f ∧ x = .valid a ∧ f a = b := by
  cases g with
  | valid f =>
    cases x with
    | valid a =>
      constructor
      · intro h
        exact ⟨f, a, rfl, rfl, Checked.valid.inj h⟩
      · rintro ⟨_, _, ⟨⟩, ⟨⟩, rfl⟩
        rfl
    | invalid cs => exact iff_of_false nofun nofun
  | invalid cs =>
    cases x with
    | valid a => exact iff_of_false nofun nofun
    | invalid ds => exact iff_of_false nofun nofun

/-- A check that has no complaints gives a value. -/
def Explains (x : Checked α) : Prop := x.complaints = [] → ∃ a, x = .valid a

theorem Explains.map {x : Checked α} (h : x.Explains) (f : α → β) :
    (f <$> x).Explains := by
  intro hc
  rw [complaints_map] at hc
  obtain ⟨a, rfl⟩ := h hc
  exact ⟨f a, rfl⟩

theorem Explains.seq {g : Checked (α → β)} {x : Checked α} (hg : g.Explains)
    (hx : x.Explains) :
    (g <*> x).Explains := by
  intro hc
  rw [complaints_seq, List.append_eq_nil_iff] at hc
  obtain ⟨f, rfl⟩ := hg hc.1
  obtain ⟨a, rfl⟩ := hx hc.2
  exact ⟨f a, rfl⟩

end Checked

theorem Reader.explains_field {α : Type} (read : Reader α) (name : String)
    (default : α) (choice : Option Datum) :
    (read.field name default choice).Explains := by
  intro hc
  cases choice with
  | none => exact ⟨default, rfl⟩
  | some d =>
    rw [field] at hc ⊢
    cases hr : read d with
    | ok a => exact ⟨a, rfl⟩
    | error reason =>
      rw [hr] at hc
      cases hc

/-- A field of a group of settings: its name, which values hold for it and what
is taken from each, the check that decides this, its default, and its place in
the group. -/
structure FieldOf (κ : Type) where
  {Value : Type}
  name : String
  Holds : Datum → Value → Prop
  read : Reader Value
  read_eq_ok_iff : ∀ d a, read d = .ok a ↔ Holds d a
  fallback : Value
  get : κ → Value

namespace FieldOf

variable {κ : Type} (f : FieldOf κ)

/-- What is taken for the field if a value is chosen, or nothing. -/
inductive Takes : Option Datum → f.Value → Prop
  | fallback : Takes none f.fallback
  | given {d : Datum} {a : f.Value} : f.Holds d a → Takes (some d) a

/-- The complaint about a chosen value that does not hold.  It names the field
and shows the value. -/
inductive Refuses : Option Datum → Complaint → Prop
  | intro {d : Datum} {reason : Reason} :
      (∀ a, ¬f.Holds d a) → f.read d = .error reason →
        Refuses (some d) ⟨some f.name, reason, d⟩

/-- The check of the field. -/
def checked (choice : Option Datum) : Checked f.Value :=
  f.read.field f.name f.fallback choice

theorem checked_cases (choice : Option Datum) :
    (∃ a, f.checked choice = .valid a ∧ f.Takes choice a) ∨
      ∃ c, f.checked choice = .invalid [c] ∧ f.Refuses choice c := by
  cases choice with
  | none => exact .inl ⟨f.fallback, rfl, .fallback⟩
  | some d =>
    cases hr : f.read d with
    | ok a =>
      refine .inl ⟨a, ?_, .given ((f.read_eq_ok_iff d a).mp hr)⟩
      rw [checked, Reader.field, hr]
    | error reason =>
      have hn (a : f.Value) : ¬f.Holds d a := by
        intro ha
        exact nomatch hr.symm.trans ((f.read_eq_ok_iff d a).mpr ha)
      refine .inr ⟨⟨some f.name, reason, d⟩, ?_, .intro hn hr⟩
      rw [checked, Reader.field, hr]

theorem explains_checked (choice : Option Datum) :
    (f.checked choice).Explains :=
  f.read.explains_field f.name f.fallback choice

variable {f} {choice : Option Datum} {a b : f.Value}

theorem Takes.checked_eq (h : f.Takes choice a) :
    f.checked choice = .valid a := by
  cases h with
  | fallback => rfl
  | given h => rw [checked, Reader.field, (f.read_eq_ok_iff _ _).mpr h]

theorem Takes.of_holds {P : f.Value → Prop} (h : f.Takes choice a)
    (hdefault : P f.fallback) (hgiven : ∀ d b, f.Holds d b → P b) : P a := by
  cases h with
  | fallback => exact hdefault
  | given h => exact hgiven _ _ h

theorem checked_eq_valid_iff :
    f.checked choice = .valid a ↔ f.Takes choice a := by
  refine ⟨fun h => ?_, Takes.checked_eq⟩
  rcases f.checked_cases choice with ⟨b, hb, ht⟩ | ⟨c, hc, -⟩
  · obtain rfl := Checked.valid.inj (h.symm.trans hb)
    exact ht
  · cases h.symm.trans hc

/-- A field complains about itself only. -/
theorem filter_complaints_checked (f : FieldOf κ) (choice : Option Datum)
    (name : String) :
    (f.checked choice).complaints.filter (fun c => c.field = some name) =
      if f.name = name then (f.checked choice).complaints else [] := by
  rcases f.checked_cases choice with ⟨a, h, -⟩ | ⟨c, h, hr⟩
  · rw [h]
    exact (ite_self _).symm
  · rw [h]
    cases hr with
    | intro =>
      show List.filter _ [_] = _
      by_cases hn : f.name = name
      · simp [Checked.complaints, hn]
      · simp [hn]

end FieldOf

section Loading

variable {κ : Type} {fields : List (FieldOf κ)}
  {choice choice' : String → Option Datum} {x x' : Checked κ}
  {Choice : String → Option Datum → Prop} {title : String}

/-- The complaints are those about the fields whose chosen values do not hold,
in the order of the fields. -/
inductive Reported (Choice : String → Option Datum → Prop) : List (FieldOf κ) →
    List Complaint → Prop
  | nil : Reported Choice [] []
  | taken {f : FieldOf κ} {chosen : Option Datum} {a : f.Value}
      {fields : List (FieldOf κ)}
      {cs : List Complaint} :
      Choice f.name chosen → f.Takes chosen a → Reported Choice fields cs →
      Reported Choice (f :: fields) cs
  | refused {f : FieldOf κ} {chosen : Option Datum} {c : Complaint}
      {fields : List (FieldOf κ)}
      {cs : List Complaint} :
      Choice f.name chosen → f.Refuses chosen c → Reported Choice fields cs →
      Reported Choice (f :: fields) (c :: cs)

/-- What it is to load a group of settings, by what may be chosen for each
field. -/
structure Loads (fields : List (FieldOf κ))
    (Choice : String → Option Datum → Prop) (title : String)
    (r : Except Invalid κ) : Prop where
  /-- For every field there is one choice. -/
  chosen : ∀ f ∈ fields, ∃! c, Choice f.name c
  /-- The group is loaded exactly if every choice holds for its own field. -/
  returns : (∃ k, r = .ok k) ↔ ∀ f ∈ fields, ∀ c, Choice f.name c →
    ∃ a, f.Takes c a
  /-- Each field has the value that is taken from its choice. -/
  values : ∀ k, r = .ok k → ∀ f ∈ fields, ∃ c, Choice f.name c ∧
    f.Takes c (f.get k)
  /-- Else there is something to report, and it is about all the choices that do
  not hold and nothing else. -/
  reports : ∀ e, r = .error e → e.group = title ∧ e.complaints ≠ [] ∧
    Reported Choice fields e.complaints

/-- The check of a group does what the checks of its fields do. -/
structure Gathers (fields : List (FieldOf κ)) (choice : String → Option Datum)
    (x : Checked κ) : Prop where
  complaints : x.complaints = fields.flatMap fun f =>
    (f.checked (choice f.name)).complaints
  values :
    ∀ k, x = .valid k → ∀ f ∈ fields,
    f.checked (choice f.name) = .valid (f.get k)
  explains : x.Explains

theorem reported_flatMap (hc : ∀ name c, Choice name c ↔ choice name = c)
    (fields : List (FieldOf κ)) :
    Reported Choice fields (fields.flatMap fun f =>
      (f.checked (choice f.name)).complaints) := by
  induction fields with
  | nil => exact .nil
  | cons f rest ih =>
    have hchosen : Choice f.name (choice f.name) := (hc _ _).mpr rfl
    rw [List.flatMap_cons]
    rcases f.checked_cases (choice f.name) with ⟨a, h, ht⟩ | ⟨c, h, hr⟩
    · rw [h]
      exact .taken hchosen ht ih
    · rw [h]
      exact .refused hchosen hr ih

theorem flatMap_complaints_eq_nil_iff :
    (fields.flatMap fun f => (f.checked (choice f.name)).complaints) = [] ↔
      ∀ f ∈ fields, ∃ a, f.Takes (choice f.name) a := by
  rw [List.flatMap_eq_nil_iff]
  refine forall₂_congr fun f _ => ⟨fun h => ?_, ?_⟩
  · obtain ⟨a, ha⟩ := f.explains_checked _ h
    exact ⟨a, FieldOf.checked_eq_valid_iff.mp ha⟩
  · rintro ⟨a, ha⟩
    rw [ha.checked_eq]
    rfl

theorem report_eq_ok_iff {k : κ} : x.report title = .ok k ↔ x = .valid k := by
  cases x with
  | valid a =>
    constructor
    · intro h
      exact congrArg _ (Except.ok.inj h)
    · intro h
      exact congrArg _ (Checked.valid.inj h)
  | invalid cs => exact iff_of_false nofun nofun

theorem report_eq_error {e : Invalid} (h : x.report title = .error e) :
    e.group = title ∧ e.complaints = x.complaints ∧ ∀ k, x ≠ .valid k := by
  cases x with
  | valid => cases h
  | invalid cs =>
    obtain rfl := Except.error.inj h
    exact ⟨rfl, rfl, nofun⟩

/-- A check that does what the checks of its fields do loads the group. -/
theorem Gathers.loads (h : Gathers fields choice x)
    (hc : ∀ name c, Choice name c ↔ choice name = c) :
    Loads fields Choice title (x.report title) where
  chosen f _ :=
    ⟨choice f.name, (hc _ _).mpr rfl, fun c h => ((hc _ _).mp h).symm⟩
  returns := by
    have hall : (∀ f ∈ fields, ∀ c, Choice f.name c → ∃ a, f.Takes c a) ↔
        x.complaints = [] := by
      rw [h.complaints, flatMap_complaints_eq_nil_iff]
      refine forall₂_congr fun f _ => ⟨fun hf => hf _ ((hc _ _).mpr rfl), ?_⟩
      rintro hf c hchosen
      obtain rfl := (hc _ _).mp hchosen
      exact hf
    rw [hall]
    simp only [report_eq_ok_iff]
    constructor
    · rintro ⟨k, rfl⟩
      rfl
    · exact h.explains
  values k hk f hf := by
    have hvalid := h.values k (report_eq_ok_iff.mp hk) f hf
    exact ⟨choice f.name, (hc _ _).mpr rfl,
      FieldOf.checked_eq_valid_iff.mp hvalid⟩
  reports e he := by
    obtain ⟨hgroup, hcs, hn⟩ := report_eq_error he
    refine ⟨hgroup, ?_, ?_⟩
    · rw [hcs]
      intro hnil
      obtain ⟨k, hk⟩ := h.explains hnil
      exact hn k hk
    · rw [hcs, h.complaints]
      exact reported_flatMap hc fields

/-! ## Loads that agree about a field -/

/-- The complaints about the field of a name. -/
def complaintsAbout (name : String) : Except Invalid κ → List Complaint
  | .ok _ => []
  | .error e => e.complaints.filter fun c => c.field = some name

/-- The same becomes of the field. -/
structure AgreeOn (f : FieldOf κ) (r r' : Except Invalid κ) : Prop where
  value : ∀ k k', r = .ok k → r' = .ok k' → f.get k = f.get k'
  complaints : complaintsAbout f.name r = complaintsAbout f.name r'

theorem complaintsAbout_report (name : String) :
    complaintsAbout name (x.report title) = x.complaints.filter fun c =>
      c.field = some name := by
  cases x <;> rfl

theorem filter_flatMap_complaints (hn : (fields.map FieldOf.name).Nodup)
    {f : FieldOf κ} (hf : f ∈ fields) :
    (fields.flatMap fun g => (g.checked (choice g.name)).complaints).filter
      (fun c => c.field = some f.name) =
      (f.checked (choice f.name)).complaints := by
  induction fields with
  | nil => cases hf
  | cons g rest ih =>
    rw [List.map_cons, List.nodup_cons] at hn
    rw [List.flatMap_cons, List.filter_append, g.filter_complaints_checked]
    -- Either the field is the first, and no other has its name, or the first
    -- has another name.
    rcases List.mem_cons.mp hf with rfl | hf
    · have hrest :
          (rest.flatMap fun g => (g.checked (choice g.name)).complaints).filter
          (fun c => c.field = some f.name) = [] := by
        rw [List.filter_flatMap, List.flatMap_eq_nil_iff]
        intro g hg
        rw [g.filter_complaints_checked, if_neg]
        intro he
        exact hn.1 (he ▸ List.mem_map_of_mem hg)
      rw [if_pos rfl, hrest, List.append_nil]
    · have hne : g.name ≠ f.name := by
        intro he
        exact hn.1 (he ▸ List.mem_map_of_mem hf)
      rw [if_neg hne, List.nil_append, ih hn.2 hf]

theorem Gathers.complaintsAbout (h : Gathers fields choice x)
    (hn : (fields.map FieldOf.name).Nodup) {f : FieldOf κ} (hf : f ∈ fields) :
    Settings.complaintsAbout f.name (x.report title) =
      (f.checked (choice f.name)).complaints := by
  rw [complaintsAbout_report, h.complaints, filter_flatMap_complaints hn hf]

/-- Loads agree about a field if they choose the same for it. -/
theorem Gathers.agreeOn (h : Gathers fields choice x)
    (h' : Gathers fields choice' x') (hn : (fields.map FieldOf.name).Nodup)
    {f : FieldOf κ} (hf : f ∈ fields) (hc : choice f.name = choice' f.name) :
    AgreeOn f (x.report title) (x'.report title) where
  value k k' hk hk' := by
    have hv := h.values k (report_eq_ok_iff.mp hk) f hf
    have hv' := h'.values k' (report_eq_ok_iff.mp hk') f hf
    rw [← hc] at hv'
    exact Checked.valid.inj (hv.symm.trans hv')
  complaints := by rw [h.complaintsAbout hn hf, h'.complaintsAbout hn hf, hc]

end Loading

end SingleNode.Settings
