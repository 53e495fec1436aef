/-
# What settles the credentials

Each field of the credentials is settled by its own variable and its own value
in the request, and by nothing else: a variable that is set and not empty
replaces the value, any other leaves it (`Overrides`).  Variables are matched
without regard to letter case, so that is a law of environments in which no two
names differ in letter case only (`Environment.IsUnambiguous`).  There it allows
exactly one outcome of the merge (`merges_iff`), and only then the group of user
name, password and email is looked at: it holds if all of it is given or nothing
of it, whichever of the two sources gave it.

`Environment.without` says what it is to change one variable.  Such a change is
felt by the field of that variable, by the group if the field belongs to it, and
nowhere else (`Merges.value?_eq`).
-/
import Mathlib.Data.List.Pairwise
import SingleNode.Proofs.Registry.Merged
import SingleNode.Proofs.Settings.Environment

namespace SingleNode

/-! ## Variables that are set -/

namespace Settings.Environment

/-- No two names differ in letter case only. -/
def IsUnambiguous (env : Environment) : Prop :=
  env.bindings.Pairwise fun v w => foldName v.1 ≠ foldName w.1

/-- A variable has the value.  The letter case of its name is of no account. -/
def Sets (env : Environment) (name value : String) : Prop :=
  ∃ other, (other, value) ∈ env.bindings ∧ foldName other = foldName name

theorem IsUnambiguous.unique {env : Environment} (h : env.IsUnambiguous)
    {name v w : String} (hv : env.Sets name v)
    (hw : env.Sets name w) : v = w := by
  obtain ⟨a, ha, hva⟩ := hv
  obtain ⟨b, hb, hwb⟩ := hw
  have sym : Std.Symm fun v w : String × String =>
      foldName v.1 ≠ foldName w.1 := ⟨fun _ _ => Ne.symm⟩
  by_contra hne
  refine h.forall ha hb ?_ (hva.trans hwb.symm)
  intro he
  exact hne (congrArg Prod.snd he)

theorem sets_of_get? {env : Environment} {name value : String}
    (h : env.get? name = some value) :
    env.Sets name value := by
  obtain ⟨v, hf, rfl⟩ := Option.map_eq_some_iff.mp h
  have hname : foldName v.1 = foldName name := by simpa using List.find?_some hf
  exact ⟨v.1, List.mem_reverse.mp (List.mem_of_find?_eq_some hf), hname⟩

theorem not_sets_of_get? {env : Environment} {name : String}
    (h : env.get? name = none) (value : String) :
    ¬env.Sets name value := by
  rintro ⟨other, hmem, ho⟩
  have hf := List.find?_eq_none.mp (Option.map_eq_none_iff.mp h)
  exact hf (other, value) (List.mem_reverse.mpr hmem) (decide_eq_true ho)

/-- Without the empty variables, those remain that have another value. -/
theorem sets_filled {env : Environment} {name value : String} :
    env.filled.Sets name value ↔ env.Sets name value ∧ value ≠ "" := by
  constructor
  · rintro ⟨other, hmem, ho⟩
    obtain ⟨hmem, hne⟩ := List.mem_filter.mp hmem
    exact ⟨⟨other, hmem, ho⟩, by simpa using hne⟩
  · rintro ⟨⟨other, hmem, ho⟩, hne⟩
    exact ⟨other, List.mem_filter.mpr ⟨hmem, by simpa using hne⟩, ho⟩

end Settings.Environment

namespace Registry

open Settings Installation

/-! ## The merge -/

/-- What is left of a given value by the variable of the name: it is replaced if
the variable is set and not empty, and kept if it is not set or empty. -/
inductive Overrides (env : Environment) (name given : String) : String → Prop
  | replaced {value : String} : env.Sets name value → value ≠ "" →
      Overrides env name given value
  | kept : (∀ value, env.Sets name value → value = "") →
      Overrides env name given given

theorem overrides_overridden (env : Environment) (field given : String) :
    Overrides env (variableName lead field)
      given (overridden env field given) := by
  rw [overridden]
  cases h : env.filled.get? (variableName lead field) with
  | some value =>
    obtain ⟨hs, hne⟩ := Environment.sets_filled.mp (Environment.sets_of_get? h)
    exact .replaced hs hne
  | none =>
    refine .kept fun value hs => ?_
    by_contra hne
    exact Environment.not_sets_of_get? h value
      (Environment.sets_filled.mpr ⟨hs, hne⟩)

theorem Overrides.unique {env : Environment} (h : env.IsUnambiguous)
    {name given v w : String} (hv : Overrides env name given v)
    (hw : Overrides env name given w) : v = w := by
  cases hv with
  | replaced hs hne =>
    cases hw with
    | replaced hs' _ => exact h.unique hs hs'
    | kept hk => exact absurd (hk v hs) hne
  | kept hk =>
    cases hw with
    | replaced hs hne => exact absurd (hk w hs) hne
    | kept _ => rfl

theorem Overrides.congr {env env' : Environment} {name given value : String}
    (h : ∀ v, env.Sets name v ↔ env'.Sets name v)
    (ho : Overrides env name given value) :
    Overrides env' name given value := by
  cases ho with
  | replaced hs hne => exact .replaced ((h value).mp hs) hne
  | kept hk => exact .kept fun v hv => hk v ((h v).mpr hv)

/-- The value of a field, by the name of the field. -/
def value? (k : Registry) (field : String) : Option String :=
  Assoc.get? field [("server", k.server), ("username", k.username),
    ("password", k.password), ("email", k.email)]

theorem eq_of_value? {k q : Registry}
    (h : ∀ f ∈ fieldNames, k.value? f = q.value? f) : k = q := by
  simp only [fieldNames, List.forall_mem_cons] at h
  obtain ⟨hs, hu, hp, he, -⟩ := h
  rcases k with ⟨server, username, password, email⟩
  rcases q with ⟨server', username', password', email'⟩
  obtain rfl := Option.some.inj hs
  obtain rfl := Option.some.inj hu
  obtain rfl := Option.some.inj hp
  obtain rfl := Option.some.inj he
  rfl

/-- The credentials as the flags of a request give them. -/
def ofFlags (r : Request) : Registry :=
  ⟨r.dockerServer, r.dockerUsername, r.dockerPassword, r.dockerEmail⟩

/-- The credentials are those of the flags, each field after its variable has
had its say. -/
def Merges (env : Environment) (r : Request) (k : Registry) : Prop :=
  ∀ rule ∈ fieldVariables, ∃ given value,
    (ofFlags r).value? rule.2 = some given ∧
    k.value? rule.2 = some value ∧ Overrides env rule.1 given value

theorem merges_merged (env : Environment) (r : Request) :
    Merges env r (merged env r) := by
  intro rule hrule
  simp only [fieldVariables, fieldNames, List.map_cons, List.map_nil,
    List.mem_cons, List.not_mem_nil, or_false] at hrule
  rcases hrule with rfl | rfl | rfl | rfl
  all_goals exact ⟨_, _, rfl, rfl, overrides_overridden env _ _⟩

theorem mem_fieldVariables {field : String} (h : field ∈ fieldNames) :
    (variableName lead field, field) ∈ fieldVariables :=
  List.mem_map_of_mem h

theorem pairwise_fieldVariables :
    fieldVariables.Pairwise fun v w => foldName v.1 ≠ foldName w.1 := by
  decide +kernel

/-- What the variables and the flags make of the credentials is one thing
only. -/
theorem merges_iff {env : Environment} (h : env.IsUnambiguous) {r : Request}
    {k : Registry} :
    Merges env r k ↔ k = merged env r := by
  constructor
  · intro hk
    refine eq_of_value? fun f hf => ?_
    obtain ⟨given, value, hgiven, hvalue, ho⟩ := hk _ (mem_fieldVariables hf)
    obtain ⟨given', value', hgiven', hvalue', ho'⟩ :=
      merges_merged env r _ (mem_fieldVariables hf)
    obtain rfl := Option.some.inj (hgiven.symm.trans hgiven')
    rw [hvalue, hvalue', ho.unique h ho']
  · rintro rfl
    exact merges_merged env r

theorem sets_of_without {env env' : Environment} {name other value : String}
    (h : env.without name = env'.without name)
    (ho : foldName other ≠ foldName name) (hs : env.Sets other value) :
    env'.Sets other value := by
  obtain ⟨spelling, hmem, hsp⟩ := hs
  have hne : (foldName spelling != foldName name) = true := by
    rw [hsp]
    exact bne_iff_ne.mpr ho
  have hkept : (spelling, value) ∈ (env.without name).bindings :=
    List.mem_filter.mpr ⟨hmem, hne⟩
  rw [h] at hkept
  exact ⟨spelling, (List.mem_filter.mp hkept).1, hsp⟩

/-- A variable has no say in the fields of other variables. -/
theorem Merges.value?_eq {env env' : Environment} {name : String} {r : Request}
    {k k' : Registry} (hu : env.IsUnambiguous)
    (h : env.without name = env'.without name) (hk : Merges env r k)
    (hk' : Merges env' r k') {rule : String × String}
    (hrule : rule ∈ fieldVariables) (hne : foldName rule.1 ≠ foldName name) :
    k'.value? rule.2 = k.value? rule.2 := by
  obtain ⟨given, value, hgiven, hvalue, ho⟩ := hk rule hrule
  obtain ⟨given', value', hgiven', hvalue', ho'⟩ := hk' rule hrule
  obtain rfl := Option.some.inj (hgiven.symm.trans hgiven')
  have hback : Overrides env rule.1 given value' :=
    ho'.congr fun v => ⟨sets_of_without h.symm hne, sets_of_without h hne⟩
  rw [hvalue, hvalue', ho.unique hu hback]

/-! ## The group -/

/-- All of the group is given. -/
def IsFull (k : Registry) : Prop :=
  k.username ≠ "" ∧ k.password ≠ "" ∧ k.email ≠ ""

/-- Nothing of the group is given. -/
def IsBare (k : Registry) : Prop :=
  k.username = "" ∧ k.password = "" ∧ k.email = ""

theorem isComplete_iff_full_or_bare {k : Registry} :
    k.isComplete = true ↔ k.IsFull ∨ k.IsBare := by
  rw [isComplete_iff, IsFull, IsBare]
  by_cases hu : k.username = "" <;> by_cases hp : k.password = "" <;>
    by_cases he : k.email = "" <;>
    simp [hu, hp, he]

theorem configured_iff_full {k : Registry} (h : k.IsFull ∨ k.IsBare) :
    k.configured = true ↔ k.IsFull := by
  rw [configured, bne_iff_ne]
  constructor
  · intro hu
    exact h.resolve_right fun hb => hu hb.1
  · intro hf
    exact hf.1

/-- The names are those of the fields of the group that are empty, in
alphabetical order. -/
structure ListsMissing (k : Registry) (names : List String) : Prop where
  sorted : names.Pairwise (· < ·)
  mem_iff : ∀ f, f ∈ names ↔ f ∈ ["username", "password", "email"] ∧
    k.value? f = some ""

theorem listsMissing_missing (k : Registry) : ListsMissing k k.missing where
  sorted := by
    have hgroup : (k.group.map Prod.fst).Pairwise (· < ·) := by
      show ["email", "password", "username"].Pairwise (· < ·)
      decide +kernel
    exact hgroup.sublist (List.filter_sublist.map Prod.fst)
  mem_iff f := by
    simp only [missing, group, List.mem_map, List.mem_filter, List.mem_cons,
      List.not_mem_nil, or_false]
    constructor
    · rintro ⟨_, ⟨rfl | rfl | rfl, he⟩, rfl⟩
      · exact ⟨.inr (.inr rfl), congrArg some (of_decide_eq_true he)⟩
      · exact ⟨.inr (.inl rfl), congrArg some (of_decide_eq_true he)⟩
      · exact ⟨.inl rfl, congrArg some (of_decide_eq_true he)⟩
    · rintro ⟨rfl | rfl | rfl, he⟩
      · exact ⟨_, ⟨.inr (.inr rfl), decide_eq_true (Option.some.inj he)⟩, rfl⟩
      · exact ⟨_, ⟨.inr (.inl rfl), decide_eq_true (Option.some.inj he)⟩, rfl⟩
      · exact ⟨_, ⟨.inl rfl, decide_eq_true (Option.some.inj he)⟩, rfl⟩

end Registry

/-! ## The options -/

namespace Installation.Options

open Settings Registry

/-- How building options ends, told by the credentials that come out of the
merge. -/
structure Settled (r : Request) (port : Int) (k : Registry)
    (outcome : Except Failure Options) : Prop where
  /-- Options are built exactly if the group holds as it is merged. -/
  returns : (∃ o, outcome = .ok o) ↔ k.IsFull ∨ k.IsBare
  /-- They are those of the request with the merged credentials, which count if
  the group is full. -/
  options : ∀ o, outcome = .ok o →
    o = ofRequest r port k ∧ o.registry = k ∧
    (o.registry.configured = true ↔ k.IsFull)
  /-- Else a fault of validation says what of the group is missing. -/
  refuses : ∀ e, outcome = .error e → ∃ f names, e = .fault f ∧
    f.kind = .validation ∧
    f.stage = "validation" ∧
    f.detail =
      "docker username, password and email must be specified together (missing: " ++
      String.intercalate ", " names ++ ")" ∧
    ListsMissing k names

theorem summary_incomplete (env : Environment) (r : Request) :
    (incomplete env r).summary =
      "docker username, password and email must be specified together (missing: " ++
        String.intercalate ", " (merged env r).missing ++ ")" :=
  String.intercalate_singleton

theorem settled_checked (env : Environment) (r : Request) (port : Int) :
    Settled r port (merged env r) (checked env r port) := by
  cases hc : (merged env r).isComplete with
  | true =>
    have hgroup := isComplete_iff_full_or_bare.mp hc
    rw [checked, if_pos hc]
    refine ⟨⟨fun _ => hgroup, fun _ => ⟨_, rfl⟩⟩, ?_, ?_⟩
    · intro o ho
      obtain rfl := Except.ok.inj ho
      exact ⟨rfl, rfl, configured_iff_full hgroup⟩
    · intro e he
      cases he
  | false =>
    have hne : ¬(merged env r).isComplete = true :=
      ne_of_eq_of_ne hc Bool.false_ne_true
    have hgroup : ¬((merged env r).IsFull ∨ (merged env r).IsBare) := by
      rwa [← isComplete_iff_full_or_bare]
    rw [checked, if_neg hne]
    refine ⟨⟨?_, fun hg => absurd hg hgroup⟩, ?_, ?_⟩
    · rintro ⟨o, ho⟩
      cases ho
    · intro o ho
      cases ho
    · intro e he
      obtain rfl := Except.error.inj he
      exact ⟨_, _, rfl, rfl, rfl, summary_incomplete env r,
        listsMissing_missing _⟩

theorem outcome_of_build {σ : Type} (env : Environment) (r : Request)
    (port : Int) (s : σ) :
    ((build env r port).run s).outcome = checked env r port := by
  show ((build env r port).silent.run s).outcome = checked env r port
  rw [silent_build, checked]
  split <;> rfl

/-- Building options depends on the environment through the merged credentials
only. -/
theorem build_congr {σ : Type} {env env' : Environment} {r : Request}
    (h : merged env' r = merged env r) (port : Int) :
    (build env' r port : Act σ Options) = build env r port := by
  have hfault : incompleteFault env' r = incompleteFault env r := by
    rw [incompleteFault, incompleteFault, summary_incomplete,
      summary_incomplete, h]
  rw [build_eq, build_eq, checked, checked, h, hfault]

/-- The credentials of the options.  They are what the variables and the flags
of the four fields merge to, each field by itself, and the group is looked at in
what was merged.  A change of one variable is felt by the field of that variable
only, and if it has none by nothing; no two fields have one variable. -/
theorem build_settles_registry {σ : Type} {env : Environment}
    (h : env.IsUnambiguous) (r : Request) (port : Int) (s : σ) :
    (fieldVariables.Pairwise fun v w => foldName v.1 ≠ foldName w.1) ∧
    ∃ k, (∀ q, Merges env r q ↔ q = k) ∧
      Settled r port k ((build env r port).run s).outcome ∧
      ∀ env' name, env'.IsUnambiguous → env.without name = env'.without name →
        (∀ k', Merges env' r k' →
          ∀ rule ∈ fieldVariables, foldName rule.1 ≠ foldName name →
            k'.value? rule.2 = k.value? rule.2) ∧
        ((∀ rule ∈ fieldVariables, foldName rule.1 ≠ foldName name) →
          (build env' r port : Act σ Options) = build env r port) := by
  refine ⟨pairwise_fieldVariables, merged env r, fun q => merges_iff h, ?_, ?_⟩
  · rw [outcome_of_build]
    exact settled_checked env r port
  intro env' name h' hw
  have felt {k' : Registry} (hk' : Merges env' r k') {rule : String × String}
      (hrule : rule ∈ fieldVariables) (hne : foldName rule.1 ≠ foldName name) :
      k'.value? rule.2 = (merged env r).value? rule.2 :=
    (merges_merged env r).value?_eq h hw hk' hrule hne
  refine ⟨fun k' hk' rule => felt hk', ?_⟩
  intro hnone
  refine build_congr (eq_of_value? fun f hf => ?_) port
  exact felt (merges_merged env' r) (mem_fieldVariables hf)
    (hnone _ (mem_fieldVariables hf))

/-- An environment with the user name in small letters, a variable that is
empty, and one of no field. -/
def accountEnvironment : Environment where
  home := "/root"
  bindings := [("abctl_local_install_docker_username", "user"),
    ("ABCTL_LOCAL_INSTALL_DOCKER_EMAIL", ""), ("HTTP_PROXY", "proxy")]

/-- There the user name is the variable's, so a request that gives the other two
has a full group. -/
theorem build_settles_registry_accountEnvironment :
    let r : Request := { dockerPassword := "secret", dockerEmail := "a@b" }
    accountEnvironment.IsUnambiguous ∧
      Settled r 8000 ⟨Registry.defaultServer, "user", "secret", "a@b"⟩
        ((build accountEnvironment r 8000).run ()).outcome := by
  intro r
  have hu : accountEnvironment.IsUnambiguous := by
    rw [Environment.IsUnambiguous]
    decide +kernel
  obtain ⟨-, k, hk, hs, -⟩ := build_settles_registry hu r 8000 ()
  have hm :
      merged accountEnvironment r =
        ⟨Registry.defaultServer, "user", "secret", "a@b"⟩ := by
    decide +kernel
  obtain rfl : merged accountEnvironment r = k :=
    (hk _).mp (merges_merged accountEnvironment r)
  exact ⟨hu, hm ▸ hs⟩

end Installation.Options

end SingleNode
