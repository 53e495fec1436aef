/-
# Logs of calls

Collaborators that do what others do and keep a log: each call is entered with
its arguments and its answer (`Collaborators.logged`).  Nothing is known of the
collaborators that do the work, so what is proved of the log holds whatever the
collaborators answer, and whatever state they keep.

The main result is `Pipeline.Course.account`.  The log of a run follows the plan
of the path it is on, up to the first call whose answer does not let the run go
on (`Follows`), and the end of the run is accounted for by the last call or by
one of the two checks between calls: the specs of the mounts and the group of
the credentials.
-/
import SingleNode.Proofs.Pipeline.Course
import SingleNode.Proofs.Plan

namespace SingleNode

/-- A call with its arguments and its answer. -/
inductive Entry
  | version (answer : Except Failure EngineVersion)
  | lookup (provider : Cluster.Provider)
      (answer : Except Failure Cluster.Handle)
  | ingressPort (container : String) (answer : Except Failure Int)
  | tryPort (port : Int) (answer : Except Failure Unit)
  | create (provider : Cluster.Provider) (port : Int) (mounts : List Mount)
      (answer : Except Failure Unit)
  | install (options : Installation.Options) (answer : Except Failure Unit)

/-- The failure that an answer is. -/
@[simp] def failureOf? {α : Type} : Except Failure α → Option Failure
  | .error e => some e
  | .ok _ => none

namespace Entry

@[simp] def call : Entry → Call
  | .version _ => .version
  | .lookup provider _ => .lookup provider.clusterName
  | .ingressPort container _ => .ingressPort container
  | .tryPort port _ => .tryPort port
  | .create provider port mounts _ => .create provider.clusterName port mounts
  | .install options _ => .install options.record

@[simp] def failure? : Entry → Option Failure
  | .version a => failureOf? a
  | .lookup _ a => failureOf? a
  | .ingressPort _ a => failureOf? a
  | .tryPort _ a => failureOf? a
  | .create _ _ _ a => failureOf? a
  | .install _ a => failureOf? a

/-- Holds if the call raised a failure that only leads to a warning: a port that
cannot be told. -/
@[simp] def isTolerated : Entry → Bool
  | .ingressPort _ (.error e) => PortChoice.tolerated e
  | _ => false

/-- Holds if the run goes on after the call. -/
@[simp] def passes (e : Entry) : Prop :=
  e.failure? = none ∨ e.isTolerated = true

theorem not_passes {x : Entry} {e : Failure} (he : x.failure? = some e)
    (ht : x.isTolerated = false) : ¬x.passes := by
  rintro (h | h)
  · exact Option.some_ne_none e (he.symm.trans h)
  · exact Bool.false_ne_true (ht.symm.trans h)

@[simp] def isInstall : Entry → Bool
  | .install .. => true
  | _ => false

/-- What a look-up reports. -/
@[simp] def found? : Entry → Option Bool
  | .lookup _ (.ok h) => some h.found
  | _ => none

@[simp] def port? : Entry → Option Int
  | .ingressPort _ (.ok p) => some p
  | _ => none

end Entry

/-- Whether a cluster was found, as far as the log tells. -/
def found? (log : List Entry) : Option Bool := log.findSome? Entry.found?

/-- The port to use: that which was read, else the one asked for. -/
def toldPort (requested : Int) (log : List Entry) : Int :=
  (log.findSome? Entry.port?).getD requested

@[simp] theorem found?_nil : found? [] = none := rfl

@[simp] theorem found?_cons (x : Entry) (log : List Entry) :
    found? (x :: log) = x.found?.or (found? log) := by
  simp only [found?, List.findSome?_cons]
  cases x.found? <;> rfl

theorem found?_append (log more : List Entry) :
    found? (log ++ more) = (found? log).or (found? more) := by
  induction log with
  | nil => rfl
  | cons x log ih =>
    rw [List.cons_append, found?_cons, found?_cons, ih, Option.or_assoc]

@[simp] theorem toldPort_nil (requested : Int) :
    toldPort requested [] = requested := rfl

@[simp] theorem toldPort_cons (requested : Int) (x : Entry) (log : List Entry) :
    toldPort requested (x :: log) = x.port?.getD (toldPort requested log) := by
  simp only [toldPort, List.findSome?_cons]
  cases x.port? <;> rfl

theorem toldPort_append (requested : Int) (log more : List Entry) :
    toldPort requested (log ++ more) =
      toldPort (toldPort requested more) log := by
  induction log with
  | nil => rfl
  | cons x log ih => rw [List.cons_append, toldPort_cons, toldPort_cons, ih]

theorem toldPort_eq {requested : Int} {log : List Entry}
    (h : ∀ x ∈ log, x.port? = none) :
    toldPort requested log = requested := by
  rw [toldPort, List.findSome?_eq_none_iff.mpr h, Option.getD_none]

/-- A state with the log of the calls so far. -/
structure Logged (σ : Type) where
  log : List Entry
  world : σ

section Logged

variable {σ α : Type}

/-- Runs an action as a call, and enters it into the log. -/
def entered (entry : Except Failure α → Entry) (x : Act σ α) :
    Act (Logged σ) α := fun s =>
  let r := x.run s.world
  ⟨r.events, ⟨s.log ++ [entry r.outcome], r.state⟩, r.outcome⟩

/-- Collaborators that also keep a log. -/
def Collaborators.logged (c : Collaborators σ) : Collaborators (Logged σ) where
  version := entered .version c.version
  lookup provider := entered (.lookup provider) (c.lookup provider)
  ingressPort container :=
    entered (.ingressPort container) (c.ingressPort container)
  tryPort port := entered (.tryPort port) (c.tryPort port)
  create provider port mounts :=
    entered (.create provider port mounts) (c.create provider port mounts)
  install options := entered (.install options) (c.install options)

theorem log_entered {entry : Except Failure α → Entry} {x : Act σ α}
    {s t : Logged σ} {d : List Event} {r : Except Failure α}
    (h : (entered entry x).silent.run s = ⟨d, t, r⟩) :
    t.log = s.log ++ [entry r] := by
  rw [Act.run_silent] at h
  simp only [Report.mk.injEq] at h
  obtain ⟨-, rfl, rfl⟩ := h
  rfl

end Logged

/-! ## Provisioning -/

namespace Provisioning

/-- The calls that follow the look-up. -/
def callsAfter (provider : Cluster.Provider) (port : Int)
    (specs : List String) :
    Option Bool → List Call
  | none => []
  | some true =>
    if provider.supportsIntrospection then [.ingressPort provider.controlPlane]
      else []
  | some false =>
    match Mount.parseAll specs with
    | .ok mounts => [.tryPort port, .create provider.clusterName port mounts]
    | .error _ => []

/-- What the log tells of how provisioning ended: a call failed, a spec is
malformed, or there is a cluster to install into. -/
inductive Account (port : Int) (specs : List String) (log : List Entry) :
    Except Failure Outcome → Prop
  | failed {x : Entry} {e : Failure} {r : Except Failure Outcome} :
      log.getLast? = some x → x.failure? = some e → x.isTolerated = false →
      ready r = .error e →
      Account port specs log r
  | malformed {f : Fault} {r : Except Failure Outcome} :
      (∀ x ∈ log, x.passes) → found? log = some false →
        Mount.parseAll specs = .error f →
      ready r = .error (.fault f) → Account port specs log r
  | prepared {o : Outcome} {r : Except Failure Outcome} :
      (∀ x ∈ log, x.passes) → (found? log).isSome →
      (found? log = some false → ∃ mounts, Mount.parseAll specs = .ok mounts) →
      ready r = .ok o → o.port = toldPort port log → Account port specs log r

variable {σ : Type} {c : Collaborators σ}
  {provider : Cluster.Provider} {port : Int}
  {specs : List String}

theorem Account.of_ready {log : List Entry} {r : Except Failure Outcome}
    {o : Outcome} (h : Account port specs log r)
    (hr : Provisioning.ready r = .ok o) :
    (∀ x ∈ log, x.passes) ∧ (found? log).isSome ∧
      (found? log = some false → ∃ mounts, Mount.parseAll specs = .ok mounts) ∧
      o.port = toldPort port log := by
  cases h with
  | failed _ _ _ he => simp [he] at hr
  | malformed _ _ _ he => simp [he] at hr
  | @prepared o' _ hp hn hs he ho =>
    obtain rfl : o' = o := by simpa [he] using hr
    exact ⟨hp, hn, hs, ho⟩

/-- The calls of provisioning follow their plan, and the log accounts for how it
ended. -/
theorem Course.account {s t : Logged σ} {d : List Event}
    {r : Except Failure Outcome}
    (h : Course c.logged provider port specs s ⟨d, t, r⟩) :
    ∃ log, t.log = s.log ++ log ∧
      Follows Entry.call Entry.passes
        (.lookup provider.clusterName :: callsAfter provider port specs
          (found? log)) log ∧
      Account port specs log r := by
  cases h with
  | @lookupFails d t e hl =>
    refine ⟨[.lookup provider (.error e)], log_entered hl, ?_,
      .failed rfl rfl rfl ?_⟩
    · simp
    · exact ready_settled port e
  | @taken d t h hl hf hi =>
    refine ⟨[.lookup provider (.ok h)], log_entered hl, ?_,
      .prepared ?_ ?_ ?_ rfl rfl⟩
    all_goals simp [callsAfter, hf, hi]
  | @observed d d' t u h p hl hf hi hp =>
    refine ⟨[.lookup provider (.ok h),
      .ingressPort provider.controlPlane (.ok p)], ?_, ?_,
      .prepared ?_ ?_ ?_ rfl rfl⟩
    · simp [log_entered hp, log_entered hl]
    all_goals simp [callsAfter, hf, hi]
  | @undetermined d d' t u h e hl hf hi hp he =>
    refine ⟨[.lookup provider (.ok h),
      .ingressPort provider.controlPlane (.error e)], ?_, ?_,
      .prepared ?_ ?_ ?_ rfl rfl⟩
    · simp [log_entered hp, log_entered hl]
    all_goals simp [callsAfter, hf, hi, he]
  | @introspectionFails d d' t u h e hl hf hi hp he =>
    refine ⟨[.lookup provider (.ok h),
      .ingressPort provider.controlPlane (.error e)], ?_, ?_,
      .failed rfl rfl he rfl⟩
    · simp [log_entered hp, log_entered hl]
    · simp [callsAfter, hf, hi, he]
  | @malformed d t h f hl hf hm =>
    refine ⟨[.lookup provider (.ok h)], log_entered hl, ?_,
      .malformed ?_ ?_ hm rfl⟩
    all_goals simp [callsAfter, hf, hm]
  | @portFails d d' t u h mounts e hl hf hm hp =>
    refine ⟨[.lookup provider (.ok h), .tryPort port (.error e)], ?_, ?_,
      .failed rfl rfl rfl (ready_settled port e)⟩
    · simp [log_entered hp, log_entered hl]
    · simp [callsAfter, hf, hm]
  | @createFails d d' d'' t u v h mounts e hl hf hm hp hc =>
    refine ⟨[.lookup provider (.ok h), .tryPort port (.ok ()),
      .create provider port mounts (.error e)], ?_, ?_,
        .failed rfl rfl rfl (ready_settled port e)⟩
    · simp [log_entered hc, log_entered hp, log_entered hl]
    · simp [callsAfter, hf, hm]
  | @created d d' d'' t u v h mounts hl hf hm hp hc =>
    refine ⟨[.lookup provider (.ok h), .tryPort port (.ok ()),
      .create provider port mounts (.ok ())], ?_, ?_,
        .prepared ?_ ?_ ?_ rfl rfl⟩
    · simp [log_entered hc, log_entered hp, log_entered hl]
    all_goals simp [callsAfter, hf, hm]

end Provisioning

/-! ## The whole run -/

namespace Pipeline

open Installation (Options Request)

/-- The calls of the stages before the installer, by what the look-up
reports. -/
def stageCalls (provider : Cluster.Provider) (request : Request)
    (found : Option Bool) :
    List Call :=
  .version :: .lookup provider.clusterName ::
    Provisioning.callsAfter provider request.port request.volumes found

/-- What the calls before the installer, and the call of the installer if there
is one, tell of how the run ended. -/
inductive Account (env : Settings.Environment) (request : Request)
    (stages : List Entry) :
    List Entry → Except Failure Options → Prop
  | failed {x : Entry} {e : Failure} :
      stages.getLast? = some x → x.failure? = some e → x.isTolerated = false →
      Account env request stages [] (.error e)
  | malformed {f : Fault} :
      (∀ x ∈ stages, x.passes) → found? stages = some false →
      Mount.parseAll request.volumes = .error f →
      Account env request stages [] (.error (.fault f))
  | incomplete :
      (∀ x ∈ stages, x.passes) → (found? stages).isSome →
      (found? stages = some false →
        ∃ mounts, Mount.parseAll request.volumes = .ok mounts) →
      (Registry.merged env request).isComplete = false →
      Account env request stages []
        (.error (.fault (Options.incompleteFault env request)))
  | called {answer : Except Failure Unit} {o : Options} :
      (∀ x ∈ stages, x.passes) → (found? stages).isSome →
      (found? stages = some false →
        ∃ mounts, Mount.parseAll request.volumes = .ok mounts) →
      (Registry.merged env request).isComplete = true →
      o = optionsFor env request (toldPort request.port stages) →
      Account env request stages [.install o answer] (answer.map fun _ => o)

variable {σ : Type} {c : Collaborators σ} {provider : Cluster.Provider}
  {env : Settings.Environment} {request : Request}

theorem account_install {s t u x : Logged σ} {d d' d'' : List Event}
    {v : EngineVersion} {r : Except Failure Provisioning.Outcome}
    {o : Provisioning.Outcome} {answer : Except Failure Unit}
    (hv : c.logged.version.silent.run s = ⟨d, t, .ok v⟩)
    (hc : Provisioning.Course c.logged provider request.port request.volumes t
      ⟨d', u, r⟩) (hr : Provisioning.ready r = .ok o)
    (hm : (Registry.merged env request).isComplete = true)
    (hi : (c.logged.install (optionsFor env request o.port)).silent.run u =
      ⟨d'', x, answer⟩) :
    ∃ stages rest, x.log = s.log ++ stages ++ rest ∧
      Follows Entry.call Entry.passes
        (stageCalls provider request (found? stages)) stages ∧
      Account env request stages rest
        (answer.map fun _ => optionsFor env request o.port) := by
  obtain ⟨log, hlog, hf, ha⟩ := hc.account
  obtain ⟨hp, hn, hs, ho⟩ := ha.of_ready hr
  refine ⟨.version (.ok v) :: log,
    [.install (optionsFor env request o.port) answer], ?_, ?_,
    .called ?_ ?_ ?_ hm ?_⟩
  · simp [log_entered hi, hlog, log_entered hv]
  · simpa [stageCalls] using hf
  · simpa using hp
  · simpa using hn
  · simpa using hs
  · simp [ho]

/-- The calls of a run follow their plan, and the log accounts for how it
ended. -/
theorem Course.account {s t : Logged σ} {d : List Event}
    {r : Except Failure Options}
    (h : Course c.logged provider env request s ⟨d, t, r⟩) :
    ∃ stages rest, t.log = s.log ++ stages ++ rest ∧
      Follows Entry.call Entry.passes
        (stageCalls provider request (found? stages)) stages ∧
      Account env request stages rest r := by
  cases h with
  | @engineFails d t e hv =>
    refine ⟨[.version (.error e)], [], ?_, ?_, .failed rfl rfl rfl⟩
    · simp [log_entered hv]
    · simp [stageCalls]
  | @provisioningFails d d' t u v r e hv hc hr =>
    obtain ⟨log, hlog, hf, ha⟩ := hc.account
    refine ⟨.version (.ok v) :: log, [], ?_, ?_, ?_⟩
    · simp [hlog, log_entered hv]
    · simpa [stageCalls] using hf
    · cases ha with
      | @failed x e' _ hx he ht hr' =>
        obtain rfl : e' = e := by simpa [hr'] using hr
        exact .failed (by simp [List.getLast?_cons, hx]) he ht
      | @malformed f _ hp hn hm hr' =>
        obtain rfl : Failure.fault f = e := by simpa [hr'] using hr
        exact .malformed (by simpa using hp) (by simpa using hn) hm
      | prepared _ _ _ hr' _ => simp [hr'] at hr
  | @incomplete d d' t u v r o hv hc hr hm =>
    obtain ⟨log, hlog, hf, ha⟩ := hc.account
    obtain ⟨hp, hn, hs, -⟩ := ha.of_ready hr
    refine ⟨.version (.ok v) :: log, [], ?_, ?_, .incomplete ?_ ?_ ?_ hm⟩
    · simp [hlog, log_entered hv]
    · simpa [stageCalls] using hf
    · simpa using hp
    · simpa using hn
    · simpa using hs
  | @installFails d d' d'' t u x v r o e hv hc hr hm hi =>
    exact account_install hv hc hr hm hi
  | @installed d d' d'' t u x v r o hv hc hr hm hi =>
    exact account_install hv hc hr hm hi

end Pipeline

end SingleNode
