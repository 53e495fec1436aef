/-
# What is told of the password

Two installations are given the same but for the password of the registry.  They
leave the machine in the same state and fail with the same failure, if they
fail, and what they tell is the same unless records for debugging are shown: the
password is in the announcement of one command, and nowhere else
(`run_alike_of_password`).

The password is given by the request or by a variable of the environment.  It is
not looked at except for whether there is one, so the settings, the options and
all commands but one do not depend on it.
-/
import SingleNode.Proofs.Chart.Secrecy
import SingleNode.Proofs.Installation.Target
import SingleNode.Proofs.Pipeline.Alike
import SingleNode.Proofs.Registry.Merged
import SingleNode.Proofs.Settings.Environment

namespace SingleNode

open Settings (Environment Arguments variableName foldName)

/-! ## The credentials -/

namespace Registry

def passwordVariable : String := variableName lead "password"

/-- With another password given, the credentials are the same but for the
password. -/
theorem merged_withPassword {env env' : Environment}
    (he : env.without passwordVariable = env'.without passwordVariable)
    (request : Installation.Request) (word : String) :
    merged env' { request with dockerPassword := word } =
      (merged env request).withPassword
        (merged env' { request with dockerPassword := word }).password := by
  have kept {field : String}
      (hf : foldName (variableName lead field) ≠ foldName passwordVariable)
      (given : String) :
      overridden env' field given = overridden env field given := by
    rw [overridden, overridden,
      Environment.get?_eq (Environment.filled_eq he) hf]
  have hs :
      foldName (variableName lead "server") ≠ foldName passwordVariable := by
    decide +kernel
  have hu :
      foldName (variableName lead "username") ≠ foldName passwordVariable := by
    decide +kernel
  have hm :
      foldName (variableName lead "email") ≠ foldName passwordVariable := by
    decide +kernel
  simp only [merged, withPassword, kept hs, kept hu, kept hm]

theorem missing_withPassword {r : Registry} {q : String} (hr : r.password ≠ "")
    (hq : q ≠ "") :
    (r.withPassword q).missing = r.missing := by
  simp [missing, group, withPassword, List.filter_cons, hr, hq]

theorem isComplete_withPassword {r : Registry} {q : String}
    (hr : r.password ≠ "") (hq : q ≠ "") :
    (r.withPassword q).isComplete = r.isComplete := by
  rw [isComplete, isComplete, missing_withPassword hr hq]
  rfl

end Registry

/-! ## What is told -/

/-- The messages that are shown if records below a level are not. -/
def told (least : LogLevel) (es : List Event) : List Event :=
  es.filter fun e => e.isMessage && e.showsAt least

/-- Lists of which the members belong together one by one are the same after
filtering, if those that are kept are the same. -/
theorem filter_eq_filter_iff {E : Event → Event → Prop} {kept : Event → Bool}
    (hE : ∀ e f, E e f → kept e = kept f) {es fs : List Event}
    (h : List.Forall₂ E es fs) :
    es.filter kept = fs.filter kept ↔
      List.Forall₂ (fun e f => E e f ∧ (kept e = true → e = f)) es fs := by
  induction h with
  | nil => simp
  | @cons e f es fs he _ ih =>
    rw [List.forall₂_cons, ← ih]
    cases hk : kept e with
    | false =>
      have hf : kept f = false := hE e f he ▸ hk
      simp [hk, hf, he]
    | true =>
      have hf : kept f = true := hE e f he ▸ hk
      simp [hk, hf, he]

namespace Blurred

variable {p q : String} {e f : Event}

theorem kept_eq (h : Blurred p q e f) (least : LogLevel) :
    (e.isMessage && e.showsAt least) = (f.isMessage && f.showsAt least) := by
  cases h with
  | same => rfl
  | announced t r => simp only [Event.isMessage, Event.showsAt]
  | ran t r => simp only [Machine.Command.ran, Event.isMessage, Event.showsAt]

theorem eq_of_told (h : Blurred p q e f)
    (ht : (e.isMessage && e.showsAt .info) = true) : e = f := by
  cases h with
  | same => rfl
  | announced t r => exact absurd ht Bool.false_ne_true
  | ran t r => exact absurd ht Bool.false_ne_true

theorem namesSecret_announced (t : Chart.Target) (r : Registry) (p : String) :
    (Event.log .debug
      (t.secretCommand (r.withPassword p)).announcement).NamesSecret := by
  obtain ⟨before, after, ha⟩ := t.announcement_secretCommand r
  have hl : (t.secretCommand (r.withPassword p)).announcement =
      Event.secretLead ++ (before ++ p ++ after) := by
    rw [ha p]
    simp only [String.append_assoc]
  exact ⟨_, congrArg (Event.log .debug) hl⟩

theorem eq_of_announcement_eq {t : Chart.Target} {r : Registry}
    (h : (t.secretCommand (r.withPassword p)).announcement =
      (t.secretCommand (r.withPassword q)).announcement) : p = q := by
  obtain ⟨before, after, ha⟩ := t.announcement_secretCommand r
  rw [ha p, ha q] at h
  exact (String.append_right_inj _).mp ((String.append_left_inj after).mp h)

/-- What is told of two runs in all detail is the same if the passwords are, or
if the command was not announced. -/
theorem told_debug_eq_iff {es fs : List Event}
    (h : List.Forall₂ (Blurred p q) es fs) :
    told .debug es = told .debug fs ↔ p = q ∨ ∀ e ∈ es, ¬e.NamesSecret := by
  rw [told, told, filter_eq_filter_iff (fun e f he => he.kept_eq .debug) h]
  constructor
  · intro hk
    by_cases hpq : p = q
    · exact .inl hpq
    have hn :
        List.Forall₂ (fun e f => ¬e.NamesSecret ∧ Blurred p q e f) es fs := by
      refine hk.imp ?_
      rintro e f ⟨he, heq⟩
      refine ⟨?_, he⟩
      cases he with
      | same _ hs => exact hs
      | announced t r =>
        exact absurd (eq_of_announcement_eq (Event.log.inj (heq rfl)).2) hpq
      | ran t r => exact Event.not_namesSecret_of_shows rfl
    exact .inr ((List.forall₂_and_left _ _).mp hn).1
  · rintro (rfl | hn)
    · refine h.imp ?_
      intro e f he
      refine ⟨he, fun _ => ?_⟩
      cases he <;> rfl
    · refine ((List.forall₂_and_left es fs).mpr ⟨hn, h⟩).imp ?_
      rintro e f ⟨hs, he⟩
      refine ⟨he, fun ht => ?_⟩
      cases he with
      | same => rfl
      | announced t r => exact absurd (namesSecret_announced t r p) hs
      | ran t r => exact absurd ht Bool.false_ne_true

end Blurred

namespace Installation

open Act (Alike)

variable {env env' : Environment}
  (he : env.without Registry.passwordVariable =
    env'.without Registry.passwordVariable)

include he in
theorem target_congr (clusterArgs chartArgs : Option Arguments) :
    target clusterArgs chartArgs env = target clusterArgs chartArgs env' := by
  have hk (args : Arguments) :
      Cluster.Config.load args env = Cluster.Config.load args env' :=
    Cluster.Config.load_congr he (by decide +kernel) args
  have hc (args : Arguments) :
      Chart.Coordinates.load args env = Chart.Coordinates.load args env' :=
    Chart.Coordinates.load_congr he (by decide +kernel) args
  simp only [target, hk, hc]

variable {request : Request} {word p q : String}
  (hp : (Registry.merged env request).password = p) (hp' : p ≠ "")
  (hq : (Registry.merged env'
    { request with dockerPassword := word }).password = q) (hq' : q ≠ "")

theorem alike_collaborators (t : Chart.Target) (r : Registry) (q : String) :
    (collaborators t).Alike (Same (t.Indistinct r q)) (Blurred r.password q)
      (fun o o' => o.registry = r ∧ o' = o.withPassword q)
        (collaborators t) := by
  have h : Machine.Discreet (t.Indistinct r q) (Blurred r.password q) :=
    Chart.Target.discreet_blurred r _ q
  refine ⟨h.version, h.lookup t.cluster, h.ingressPort, h.tryPort,
    h.create t.cluster, ?_⟩
  rintro o _ ⟨rfl, rfl⟩
  exact Chart.Target.alike_install o q

include he hp hp' hq hq'

theorem alike_build {σ : Type} {R : σ → σ → Prop} (port : Int) :
    Alike R (Blurred p q)
      (fun o o' => o.registry = Registry.merged env request ∧
        o' = o.withPassword q)
      (Options.build env request port)
        (Options.build env' { request with dockerPassword := word } port) := by
  subst hp
  have hm := Registry.merged_withPassword he request word
  rw [hq] at hm
  refine Options.alike_build Blurred.same port rfl ?_
  rw [Registry.load_registryArguments, Registry.load_registryArguments, hm,
    Registry.isComplete_withPassword hp' hq']
  cases (Registry.merged env request).isComplete with
  | true => exact .inl ⟨_, _, rfl, rfl, rfl, rfl⟩
  | false =>
    refine .inr ⟨_, _, rfl, rfl, ?_⟩
    have hs :
        (Registry.merged env' { request with dockerPassword := word }).missing =
          (Registry.merged env request).missing := by
      rw [hm, Registry.missing_withPassword hp' hq']
    simp [Settings.Invalid.summary, Registry.incomplete, hs]

/-- Options that belong together are the same but for the password, which is the
merged one. -/
theorem alike_runOn (t : Chart.Target) :
    Alike (Observed.Alike (Same (t.Indistinct (Registry.merged env request) q)))
      (Blurred p q)
      (fun o o' => o.registry = Registry.merged env request ∧
        o' = o.withPassword q)
      (runOn t env request)
        (runOn t env' { request with dockerPassword := word }) := by
  subst hp
  have h : Machine.Discreet (t.Indistinct (Registry.merged env request) q)
      (Blurred (Registry.merged env request).password q) :=
    Chart.Target.discreet_blurred _ _ q
  have begun (s s' : Observed Machine)
      (hs : Observed.Alike
        (Same (t.Indistinct (Registry.merged env request) q)) s s') :
      Observed.Alike (Same (t.Indistinct (Registry.merged env request) q))
        (begin t.cluster.commandTimeout s)
          (begin t.cluster.commandTimeout s') := by
    obtain ⟨-, hc, hw, hi⟩ := hs
    exact ⟨rfl, hc, by rw [begin, begin, hw], hi⟩
  refine (Alike.modify begun).next fun _ => Alike.ensure ?_ h.disconnect.within
  refine Pipeline.alike_run (alike_collaborators t _ q)
    Blurred.same t.provider rfl rfl fun port => ?_
  exact alike_build he rfl hp' hq hq' port

theorem alike_run (clusterArgs chartArgs : Option Arguments)
    {s : Observed Machine} (hs : ∀ t, target clusterArgs chartArgs env = .ok t →
      t.Indistinct (Registry.merged env request) q s.world) :
    Report.Alike Eq (Blurred p q)
      (fun o o' => o.registry = Registry.merged env request ∧
        o' = o.withPassword q)
      ((run clusterArgs chartArgs env request).run s)
      ((run clusterArgs chartArgs env'
        { request with dockerPassword := word }).run s) := by
  rw [run_eq, run_eq, ← target_congr he]
  cases ht : target clusterArgs chartArgs env with
  | error invalid =>
    rw [loaded_error, Act.fail_bind, Act.fail_bind]
    exact ⟨rfl, .nil, .failed _⟩
  | ok t =>
    have hi :
        Observed.Alike (Same (t.Indistinct (Registry.merged env request) q))
        s s :=
      ⟨rfl, rfl, rfl, hs t ht⟩
    obtain ⟨hstate, hevents, houtcome⟩ := alike_runOn he hp hp' hq hq' t s s hi
    rw [loaded_ok, pure_bind, pure_bind]
    exact ⟨hstate.eq, hevents, houtcome⟩

omit he hp hp' hq hq'

/-- Two installations that are given different passwords, on a machine whose
shell does not tell their commands apart.  Whatever happens, they end in the
same state, and with the same failure or with options that are the same but for
the password; the events are the same but for the one command and its
announcement.  What they tell is the same without the records for debugging;
with these it is the same only if the passwords are, or if the command was not
announced. -/
theorem run_alike_of_password (clusterArgs chartArgs : Option Arguments)
    (env env' : Environment)
    (he : env.without Registry.passwordVariable =
      env'.without Registry.passwordVariable) (request : Request)
    (word : String) (s : Observed Machine)
    (hp : (Registry.merged env request).password ≠ "")
    (hq : (Registry.merged env'
      { request with dockerPassword := word }).password ≠ "")
    (hs : ∀ t, target clusterArgs chartArgs env = .ok t →
      t.Indistinct (Registry.merged env request)
        (Registry.merged env' { request with dockerPassword := word }).password
        s.world) :
    let p := (Registry.merged env request).password
    let q :=
      (Registry.merged env' { request with dockerPassword := word }).password
    let a := (run clusterArgs chartArgs env request).run s
    let b :=
      (run clusterArgs chartArgs env'
      { request with dockerPassword := word }).run s
    a.state = b.state ∧
    EndedAlike (fun o o' => o' = o.withPassword q) a.outcome b.outcome ∧
      List.Forall₂ (Blurred p q) a.events b.events ∧
      told .info a.events = told .info b.events ∧
      (told .debug a.events = told .debug b.events ↔ p = q ∨
        ∀ e ∈ a.events, ¬e.NamesSecret) := by
  obtain ⟨hstate, hevents, houtcome⟩ :=
    alike_run he rfl hp rfl hq clusterArgs chartArgs hs
  refine ⟨hstate, ?_, hevents, ?_, Blurred.told_debug_eq_iff hevents⟩
  · exact houtcome.imp fun _ _ h => h.2
  · rw [told, told,
      filter_eq_filter_iff (fun e f he => he.kept_eq .info) hevents]
    exact hevents.imp fun e f he => ⟨he, he.eq_of_told⟩

def accountRequest : Request :=
  { dockerUsername := "user"
    dockerPassword := "first"
    dockerEmail := "user@host" }

/-- An observed machine on which every command succeeds. -/
def willing : Observed Machine := ⟨{}, [], { tree := .empty ["work"] }⟩

theorem indistinct_willing (t : Chart.Target) (r : Registry) (q : String) :
    t.Indistinct r q willing.world :=
  Shell.indistinct_of_rules rfl nofun

/-- Two passwords, on a machine on which every command succeeds. -/
theorem run_alike_of_password_willing :
    let env : Environment := ⟨"/root", []⟩
    let a := (run none none env accountRequest).run willing
    let b :=
      (run none none env { accountRequest with dockerPassword := "second" }).run
      willing
    (Registry.merged env accountRequest).password = "first" ∧
      (Registry.merged env
        { accountRequest with dockerPassword := "second" }).password =
        "second" ∧
      (∀ t, target none none env = .ok t →
        t.Indistinct (Registry.merged env accountRequest)
          "second" willing.world) ∧
      a.state = b.state ∧
      EndedAlike (fun o o' => o' = o.withPassword "second")
      a.outcome b.outcome ∧
      told .info a.events = told .info b.events := by
  intro env a b
  have hp : (Registry.merged env accountRequest).password = "first" := by
    decide +kernel
  have hq :
      (Registry.merged env
      { accountRequest with dockerPassword := "second" }).password =
      "second" := by decide +kernel
  obtain ⟨hstate, houtcome, -, htold, -⟩ :=
    run_alike_of_password none none env env rfl accountRequest "second" willing
      (by rw [hp]; decide)
      (by rw [hq]; decide) fun t _ => indistinct_willing t _ _
  exact ⟨hp, hq, fun t _ => indistinct_willing t _ _, hstate,
    hq ▸ houtcome, htold⟩

def debugText? : Event → Option String
  | .log .debug text => some text
  | _ => none

/-- With the records for debugging these two installations tell which password
they were given. -/
theorem password_told :
    let env : Environment := ⟨"/root", []⟩
    let a := (run none none env accountRequest).run willing
    let b :=
      (run none none env { accountRequest with dockerPassword := "second" }).run
      willing
    told .debug a.events ≠ told .debug b.events := by
  intro env a b h
  have hd := congrArg (List.filterMap debugText?) h
  revert hd
  decide +kernel

end Installation

end SingleNode
