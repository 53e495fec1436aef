/-
# Where settings come from

There are three bundles of settings that read the environment, and the variables
of all of them start alike.  Still, no two of their fields have one variable
(`nodup_places`), so a variable is felt by one field of one bundle at most.

For the cluster and for the charts an argument comes before a variable, a
variable before the default, and an empty variable is a value like any other
(`Chosen`).  Names are matched without regard to letter case, so this is a law
of environments in which no two names differ in letter case only.  What is
chosen for a field is checked for that field, and the settings are loaded
exactly if all the choices hold (`loads_by_precedence`).
-/
import SingleNode.Proofs.Registry.Override
import SingleNode.Proofs.Settings.Groups

namespace SingleNode

namespace Settings

/-! ## What is chosen -/

/-- The arguments without those for a field. -/
def Arguments.without (args : Arguments) (field : String) : Arguments :=
  List.filter (fun a => foldName a.1 != foldName field) args

/-- The value is that of the first argument for the field.  The letter case of
its name is of no account. -/
def Arguments.Gives (args : Arguments) (field : String) (d : Datum) : Prop :=
  ∃ before name rest, args = before ++ (name, d) :: rest ∧
    foldName name = foldName field ∧
    ∀ a ∈ before, foldName a.1 ≠ foldName field

/-- What is chosen for a field: its argument, else its variable, else
nothing. -/
inductive Chosen (args : Arguments) (env : Environment) (lead field : String) :
    Option Datum → Prop
  | argument {d : Datum} : args.Gives field d →
      Chosen args env lead field (some d)
  | variable {value : String} :
      (∀ d, ¬args.Gives field d) → env.Sets (variableName lead field) value →
      Chosen args env lead field (some (.text value))
  | nothing :
      (∀ d, ¬args.Gives field d) →
        (∀ value, ¬env.Sets (variableName lead field) value) →
      Chosen args env lead field none

theorem Arguments.find?_eq_some_iff {args : Arguments} {field : String}
    {d : Datum} :
    args.find? field = some d ↔ args.Gives field d := by
  rw [Arguments.find?, Option.map_eq_some_iff]
  constructor
  · rintro ⟨⟨name, d⟩, hf, rfl⟩
    obtain ⟨hname, before, rest, hargs, hbefore⟩ :=
      List.find?_eq_some_iff_append.mp hf
    refine ⟨before, name, rest, hargs, by simpa using hname, ?_⟩
    intro a ha
    simpa using hbefore a ha
  · rintro ⟨before, name, rest, hargs, hname, hbefore⟩
    refine ⟨(name, d),
      List.find?_eq_some_iff_append.mpr
      ⟨by simpa using hname, before, rest, hargs, ?_⟩, rfl⟩
    intro a ha
    simpa using hbefore a ha

theorem Arguments.find?_eq_none_iff {args : Arguments} {field : String} :
    args.find? field = none ↔ ∀ d, ¬args.Gives field d := by
  rw [Option.eq_none_iff_forall_ne_some]
  exact forall_congr' fun d => not_congr Arguments.find?_eq_some_iff

theorem Arguments.find?_without (args : Arguments) {field other : String}
    (h : foldName other ≠ foldName field) :
    (args.without field).find? other = args.find? other := by
  rw [Arguments.find?, Arguments.find?, Arguments.without, List.find?_filter]
  refine congrArg _ (congrArg (List.find? · _) (funext fun a => ?_))
  by_cases ha : foldName a.1 = foldName other
  · simp [ha, h]
  · simp [ha]

/-- In an environment without ambiguous names the choice is the value that is
given. -/
theorem chosen_iff {env : Environment} (h : env.IsUnambiguous)
    {args : Arguments} {lead field : String} {c : Option Datum} :
    Chosen args env lead field c ↔ given? args env lead field = c := by
  constructor
  · rintro (ha | ⟨ha, hs⟩ | ⟨ha, hs⟩)
    · rw [given?, Arguments.find?_eq_some_iff.mpr ha]
      rfl
    · rw [given?, Arguments.find?_eq_none_iff.mpr ha]
      cases hv : env.get? (variableName lead field) with
      | some value =>
        obtain rfl := h.unique hs (Environment.sets_of_get? hv)
        rfl
      | none => exact absurd hs (Environment.not_sets_of_get? hv _)
    · rw [given?, Arguments.find?_eq_none_iff.mpr ha]
      cases hv : env.get? (variableName lead field) with
      | some value => exact absurd (Environment.sets_of_get? hv) (hs value)
      | none => rfl
  · rintro rfl
    rw [given?]
    cases ha : args.find? field with
    | some d => exact .argument (Arguments.find?_eq_some_iff.mp ha)
    | none =>
      have hnone := Arguments.find?_eq_none_iff.mp ha
      cases hv : env.get? (variableName lead field) with
      | some value => exact .variable hnone (Environment.sets_of_get? hv)
      | none => exact .nothing hnone (Environment.not_sets_of_get? hv)

/-! ## The bundles -/

/-- A bundle of settings: what its variables start with, its fields below a home
directory, and how it is loaded. -/
structure Bundle : Type 1 where
  Loaded : Type
  title : String
  lead : String
  fields : String → List (FieldOf Loaded)
  load : Arguments → Environment → Except Invalid Loaded

namespace Bundle

def cluster : Bundle where
  Loaded := Cluster.Config
  title := "ClusterConfig"
  lead := "ABCTL_"
  fields := Cluster.Config.fields
  load := Cluster.Config.load

def chart : Bundle where
  Loaded := Chart.Coordinates
  title := "ChartConfig"
  lead := "ABCTL_CHART_"
  fields _ := Chart.Coordinates.fields
  load := Chart.Coordinates.load

def registry : Bundle where
  Loaded := Registry
  title := "RegistryCredentials"
  lead := "ABCTL_LOCAL_INSTALL_DOCKER_"
  fields _ := Registry.fields
  load := Registry.load

/-- The bundles that read the environment. -/
def all : List Bundle := [cluster, chart, registry]

/-- All fields of all bundles, each with what its variable starts with. -/
def places : List (String × String) :=
  all.flatMap fun G => (G.fields "").map fun f => (G.lead, f.name)

/-- No two places have one variable. -/
theorem nodup_places :
    (places.map fun p => foldName (variableName p.1 p.2)).Nodup := by
  decide +kernel

variable {G G' : Bundle} {home home' : String}

theorem cases_all (h : G ∈ all) : G = cluster ∨ G = chart ∨ G = registry := by
  simpa [all] using h

theorem map_name_fields (hG : G ∈ all) (home : String) :
    (G.fields home).map FieldOf.name = (G.fields "").map FieldOf.name := by
  rcases cases_all hG with rfl | rfl | rfl
  · rfl
  · rfl
  · rfl

theorem mem_places (hG : G ∈ all) {f : FieldOf G.Loaded}
    (hf : f ∈ G.fields home) :
    (G.lead, f.name) ∈ places := by
  have hname : f.name ∈ (G.fields "").map FieldOf.name := by
    rw [← map_name_fields hG home]
    exact List.mem_map_of_mem hf
  obtain ⟨g, hg, hgf⟩ := List.mem_map.mp hname
  exact List.mem_flatMap.mpr ⟨G, hG, List.mem_map.mpr ⟨g, hg, by rw [hgf]⟩⟩

theorem place_eq (hG : G ∈ all) (hG' : G' ∈ all) {f : FieldOf G.Loaded}
    {f' : FieldOf G'.Loaded} (hf : f ∈ G.fields home)
    (hf' : f' ∈ G'.fields home')
    (h : foldName (variableName G.lead f.name) =
      foldName (variableName G'.lead f'.name)) :
    G.lead = G'.lead ∧ f.name = f'.name :=
  Prod.mk.inj
    (List.inj_on_of_nodup_map nodup_places (mem_places hG hf)
    (mem_places hG' hf') h)

/-- The names of the fields of a bundle differ in more than letter case. -/
theorem nodup_names (hG : G ∈ all) (home : String) :
    ((G.fields home).map fun f => foldName f.name).Nodup := by
  have hfold : (G.fields home).map (fun f => foldName f.name) =
      ((G.fields "").map FieldOf.name).map foldName := by
    rw [← map_name_fields hG home, List.map_map]
    rfl
  rw [hfold]
  rcases cases_all hG with rfl | rfl | rfl
  · decide +kernel
  · decide +kernel
  · decide +kernel

theorem nodup_fields (hG : G ∈ all) (home : String) :
    ((G.fields home).map FieldOf.name).Nodup := by
  have h := nodup_names hG home
  have hcomp :
      (fun f : FieldOf G.Loaded => foldName f.name) = foldName ∘ FieldOf.name :=
    rfl
  rw [hcomp, ← List.map_map] at h
  exact h.of_map foldName

section Agreement

variable {args args' : Arguments} {env env' : Environment} {name : String}

theorem agreeOn (hG : G ∈ all) {f : FieldOf G.Loaded}
    (hf : f ∈ G.fields env.home)
    (hargs : args.find? f.name = args'.find? f.name)
    (henv : env.without name = env'.without name)
    (hn : foldName (variableName G.lead f.name) ≠ foldName name) :
    AgreeOn f (G.load args env) (G.load args' env') := by
  have hgiven :
      Settings.given? args env G.lead f.name =
        Settings.given? args' env' G.lead f.name := by
    rw [Settings.given?, Settings.given?, hargs, Environment.get?_eq henv hn]
  have hnodup := nodup_fields hG env.home
  have hhome : env'.home = env.home := (Environment.home_eq henv).symm
  -- Only a default of the first bundle lies below the home directory, which
  -- stays the same.
  rcases cases_all hG with rfl | rfl | rfl
  · have h' := Cluster.Config.gathers_check args' env'
    rw [hhome] at h'
    exact (Cluster.Config.gathers_check args env).agreeOn h' hnodup hf hgiven
  · have h' := Chart.Coordinates.gathers_check args' env'
    exact (Chart.Coordinates.gathers_check args env).agreeOn h' hnodup hf hgiven
  · refine Registry.agreeOn_load hf ?_
    have hvariable :
        Registry.override? env f.name = Registry.override? env' f.name := by
      rw [Registry.override?, Registry.override?]
      exact congrArg _ (Environment.get?_eq (Environment.filled_eq henv) hn)
    rw [Registry.given?, Registry.given?, hvariable, hargs]

end Agreement

/-- The settings and the environment stay the same but for the argument and the
variable of a field. -/
def AgreeBut (lead field : String) (args : Arguments) (env : Environment)
    (args' : Arguments) (env' : Environment) : Prop :=
  args.without field = args'.without field ∧
    env.without (variableName lead field) =
      env'.without (variableName lead field)

/-- A field of a bundle feels nothing of the argument and the variable of
another. -/
theorem agreeOn_of_agreeBut (hG : G ∈ all) {args args' : Arguments}
    {env env' : Environment} {f g : FieldOf G.Loaded}
    (hf : f ∈ G.fields env.home) (hg : g ∈ G.fields env.home)
    (hne : g.name ≠ f.name) (h : AgreeBut G.lead f.name args env args' env') :
    AgreeOn g (G.load args env) (G.load args' env') := by
  obtain ⟨hargs, henv⟩ := h
  have hname : foldName g.name ≠ foldName f.name := by
    intro he
    refine hne (congrArg FieldOf.name ?_)
    exact List.inj_on_of_nodup_map (nodup_names hG env.home) hg hf he
  have hfind : args.find? g.name = args'.find? g.name := by
    rw [← Arguments.find?_without args hname, hargs,
      Arguments.find?_without args' hname]
  refine agreeOn hG hg hfind henv ?_
  intro he
  exact hne (place_eq hG hG hg hf he).2

/-- The field feels the variable: it fares differently in environments that
agree but for that. -/
def Feels (G : Bundle) (f : FieldOf G.Loaded) (home name : String) : Prop :=
  ∃ args env env', env.home = home ∧ env.without name = env'.without name ∧
    ¬AgreeOn f (G.load args env) (G.load args env')

/-- A field feels no variable but its own. -/
theorem Feels.fold_eq (hG : G ∈ all) {f : FieldOf G.Loaded}
    (hf : f ∈ G.fields home) {name : String} (h : G.Feels f home name) :
    foldName (variableName G.lead f.name) = foldName name := by
  obtain ⟨args, env, env', rfl, henv, hnot⟩ := h
  by_contra hn
  exact hnot (agreeOn hG hf rfl henv hn)

end Bundle

/-- Each field of the settings of the cluster and of the charts is taken from
its argument, else from its variable, else from its default.  The settings are
loaded exactly if all that is chosen holds for its field, and else the fields
for which it does not are reported in order.  What becomes of a field is no
concern of any other, and a variable is felt by one field of one bundle at
most. -/
theorem loads_by_precedence {env : Environment} (h : env.IsUnambiguous)
    (args : Arguments) :
    (∀ G ∈ [Bundle.cluster, Bundle.chart],
      Loads (G.fields env.home) (Chosen args env G.lead)
        G.title (G.load args env)) ∧
    (∀ cfg, Cluster.Config.load args env = .ok cfg →
      1 ≤ cfg.commandTimeout ∧ cfg.commandTimeout ≤ 3600 ∧
        (cfg.backend.name = "kind" ∨ cfg.backend.name = "test")) ∧
    (∀ G ∈ Bundle.all, ∀ f ∈ G.fields env.home, ∀ args' env',
      Bundle.AgreeBut G.lead f.name args env args' env' →
      ∀ g ∈ G.fields env.home, g.name ≠ f.name →
        AgreeOn g (G.load args env) (G.load args' env')) ∧
    ∀ name home home', ∀ G ∈ Bundle.all, ∀ G' ∈ Bundle.all, ∀ f ∈ G.fields home,
      ∀ f' ∈ G'.fields home', G.Feels f home name → G'.Feels f' home' name →
        G.lead = G'.lead ∧ f.name = f'.name := by
  refine ⟨?_, ?_, ?_, ?_⟩
  · intro G hG
    simp only [List.mem_cons, List.not_mem_nil, or_false] at hG
    rcases hG with rfl | rfl
    · exact (Cluster.Config.gathers_check args env).loads fun _ _ =>
        chosen_iff h
    · exact (Chart.Coordinates.gathers_check args env).loads fun _ _ =>
        chosen_iff h
  · intro cfg hcfg
    obtain ⟨hlow, hhigh⟩ := Cluster.Config.bounded_of_load hcfg
    refine ⟨hlow, hhigh, ?_⟩
    cases cfg.backend with
    | kind => exact .inl rfl
    | test => exact .inr rfl
  · intro G hG f hf args' env' hbut g hg hne
    exact Bundle.agreeOn_of_agreeBut hG hf hg hne hbut
  · intro name home home' G hG G' hG' f hf f' hf' hfeels hfeels'
    exact Bundle.place_eq hG hG' hf hf'
      ((hfeels.fold_eq hG hf).trans (hfeels'.fold_eq hG' hf').symm)

/-- An environment with names in all sorts of letters, a provider that is none,
and an empty variable. -/
def mixedEnvironment : Environment where
  home := "/root"
  bindings :=
    [("abctl_command_timeout", " 0_30.0 "), ("Abctl_Provider", "minikube"),
    ("ABCTL_CHART_RELEASE", ""), ("HTTP_PROXY", "proxy")]

/-- Arguments for two fields, one of them in other letters and the other out of
bounds. -/
def mixedArguments : Arguments :=
  [("Node_Image", .text "node"), ("command_timeout", .integer 0)]

/-- There the provider of the variable is refused, and the timeout of the
argument. -/
theorem loads_by_precedence_mixedEnvironment :
    let r := Cluster.Config.load mixedArguments mixedEnvironment
    mixedEnvironment.IsUnambiguous ∧
      Loads (Cluster.Config.fields "/root")
        (Chosen mixedArguments mixedEnvironment "ABCTL_")
        "ClusterConfig" r ∧
      ∃ e, r = .error e ∧
        e.complaints.map Complaint.field =
          [some "provider", some "command_timeout"] := by
  intro r
  have hu : mixedEnvironment.IsUnambiguous := by
    rw [Environment.IsUnambiguous]
    decide +kernel
  obtain ⟨hloads, -⟩ := loads_by_precedence hu mixedArguments
  exact ⟨hu, hloads Bundle.cluster List.mem_cons_self, _,
    rfl, by decide +kernel⟩

end Settings

end SingleNode
