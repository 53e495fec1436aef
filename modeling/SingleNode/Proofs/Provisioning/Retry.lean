/-
# Provisioning again and again

Provisioning is tried any number of times against one world, and in every try
any call may fail.  A world has a cluster or has none; only a creation that
returns changes that, and from then on the cluster is found and has the port it
was created with (`Collaborators.Track`).

Then the tries fall into three parts (`trials_split`): first those that are
aborted, then at most one that creates the cluster, and after that only tries
that reuse it.  A try that reuses a cluster (`Reuse`) looks for it and reads its
port, and does not look at its mount specs.

The induction is over the tries.  What one try does is read off its transcript:
without a cluster by `Transcript.of_absent`, with one by
`Transcript.of_present`.
-/
import SingleNode.Proofs.Provisioning.Abort

namespace SingleNode

variable {σ : Type}

/-- Collaborators of a world in which `Holds s none` says that there is no
cluster, and `Holds s (some p)` that there is one with port `p`.  They raise
faults only, and reading a port raises only faults that are tolerated. -/
structure Collaborators.Track (Holds : σ → Option Int → Prop)
    (c : Collaborators σ) : Prop where
  lookup : ∀ provider s k, Holds s k →
    Holds ((c.lookup provider).run s).state k ∧
    (∀ h, ((c.lookup provider).run s).outcome = .ok h → h.found = k.isSome) ∧
    ∀ e, ((c.lookup provider).run s).outcome = .error e → e.isFault = true
  ingressPort : ∀ name s p, Holds s (some p) →
    Holds ((c.ingressPort name).run s).state (some p) ∧
    (∀ q, ((c.ingressPort name).run s).outcome = .ok q → q = p) ∧
    ∀ e, ((c.ingressPort name).run s).outcome = .error e →
      PortChoice.tolerated e = true
  tryPort : ∀ port s k, Holds s k → Holds ((c.tryPort port).run s).state k ∧
    ∀ e, ((c.tryPort port).run s).outcome = .error e → e.isFault = true
  create : ∀ provider port mounts s, Holds s none →
    (((c.create provider port mounts).run s).outcome = .ok () →
      Holds ((c.create provider port mounts).run s).state (some port)) ∧
    ∀ e, ((c.create provider port mounts).run s).outcome = .error e →
      e.isFault = true ∧
      Holds ((c.create provider port mounts).run s).state none

namespace Provisioning

/-- The calls and the outcome of a try for `port` that reuses a cluster with
port `p`. -/
inductive Reuse (provider : Cluster.Provider) (port p : Int) :
    List Entry → Except Failure Outcome → Prop
  | unknown (f : Fault) :
      Reuse provider port p [.lookup provider (.error (.fault f))]
        (.ok (.aborted port f))
  | taken (h : Cluster.Handle) :
      provider.backend = .test →
      Reuse provider port p [.lookup provider (.ok h)]
        (.ok (.validated port none))
  | told (h : Cluster.Handle) :
      provider.backend = .kind →
      Reuse provider port p
        [.lookup provider (.ok h), .ingressPort provider.controlPlane (.ok p)]
        (.ok
          (.validated p
          (some { requested := port, effective := p, conflict := p ≠ port })))
  | untold (h : Cluster.Handle) (e : Failure) :
      provider.backend = .kind →
      Reuse provider port p
        [.lookup provider (.ok h),
          .ingressPort provider.controlPlane (.error e)]
        (.ok (.validated port
          (some
            { requested := port, effective := port, determinable := false })))

section Transcript

variable {c : Collaborators σ} {Holds : σ → Option Int → Prop}
  {provider : Cluster.Provider} {port p : Int} {specs : List String} {s t : σ}
  {log : List Entry} {r : Except Failure Outcome}

theorem settled_of_isFault (port : Int) {e : Failure} (he : e.isFault = true) :
    ∃ f, e = .fault f ∧ settled port e = .ok (.aborted port f) := by
  cases e with
  | fault f => exact ⟨f, rfl, rfl⟩
  | _ => exact nomatch he

theorem backend_eq_test (h : provider.supportsIntrospection = false) :
    provider.backend = .test := by
  cases hb : provider.backend with
  | test => rfl
  | kind => simp [Cluster.Provider.supportsIntrospection, hb] at h

theorem backend_eq_kind (h : provider.supportsIntrospection = true) :
    provider.backend = .kind := by
  simpa [Cluster.Provider.supportsIntrospection] using h

/-- Without a cluster a try is aborted and there is still none, or it creates
one. -/
theorem Transcript.of_absent (hc : c.Track Holds) (hs : Holds s none)
    (hl : Called c s log t) (h : Transcript provider port specs log r) :
    ((∃ f, r = .ok (.aborted port f)) ∧ Holds t none) ∨
      (∃ mounts, r = .ok (.created port mounts)) ∧ Holds t (some port) := by
  have found {h : Cluster.Handle}
      (ho : ((c.lookup provider).run s).outcome = .ok h) :
      h.found = false := (hc.lookup provider s none hs).2.1 h ho
  have looked : Holds ((c.lookup provider).run s).state none :=
    (hc.lookup provider s none hs).1
  cases h with
  | lookupFails e =>
    obtain _ | ⟨⟨rfl, ho⟩, _ | _⟩ := hl
    obtain ⟨f, -, hr⟩ :=
      settled_of_isFault port ((hc.lookup provider s none hs).2.2 e ho)
    exact .inl ⟨⟨f, hr⟩, looked⟩
  | taken h hf hi =>
    obtain _ | ⟨⟨rfl, ho⟩, _⟩ := hl
    exact nomatch (found ho).symm.trans hf
  | observed h q hf hi =>
    obtain _ | ⟨⟨rfl, ho⟩, _⟩ := hl
    exact nomatch (found ho).symm.trans hf
  | undetermined h e hf hi he =>
    obtain _ | ⟨⟨rfl, ho⟩, _⟩ := hl
    exact nomatch (found ho).symm.trans hf
  | introspectionFails h e hf hi he =>
    obtain _ | ⟨⟨rfl, ho⟩, _⟩ := hl
    exact nomatch (found ho).symm.trans hf
  | malformed h f hf hm =>
    obtain _ | ⟨⟨rfl, -⟩, _ | _⟩ := hl
    exact .inl ⟨⟨f, rfl⟩, looked⟩
  | portFails h mounts e hf hm =>
    obtain _ | ⟨⟨rfl, -⟩, _ | ⟨⟨rfl, ho⟩, _ | _⟩⟩ := hl
    obtain ⟨ht, he⟩ := hc.tryPort port _ none looked
    obtain ⟨f, -, hr⟩ := settled_of_isFault port (he e ho)
    exact .inl ⟨⟨f, hr⟩, ht⟩
  | createFails h mounts e hf hm =>
    obtain _ | ⟨⟨rfl, -⟩, _ | ⟨⟨rfl, -⟩, _ | ⟨⟨rfl, ho⟩, _ | _⟩⟩⟩ := hl
    obtain ⟨ht, -⟩ := hc.tryPort port _ none looked
    obtain ⟨he, hn⟩ := (hc.create provider port mounts _ ht).2 e ho
    obtain ⟨f, -, hr⟩ := settled_of_isFault port he
    exact .inl ⟨⟨f, hr⟩, hn⟩
  | created h mounts hf hm =>
    obtain _ | ⟨⟨rfl, -⟩, _ | ⟨⟨rfl, -⟩, _ | ⟨⟨rfl, ho⟩, _ | _⟩⟩⟩ := hl
    obtain ⟨ht, -⟩ := hc.tryPort port _ none looked
    exact .inr ⟨⟨mounts, rfl⟩, (hc.create provider port mounts _ ht).1 ho⟩

/-- With a cluster a try reuses it, and it is there as before. -/
theorem Transcript.of_present (hc : c.Track Holds) (hs : Holds s (some p))
    (hl : Called c s log t) (h : Transcript provider port specs log r) :
    Reuse provider port p log r ∧ Holds t (some p) := by
  have found {h : Cluster.Handle}
      (ho : ((c.lookup provider).run s).outcome = .ok h) :
      h.found = true := (hc.lookup provider s (some p) hs).2.1 h ho
  have looked : Holds ((c.lookup provider).run s).state (some p) :=
    (hc.lookup provider s (some p) hs).1
  obtain ⟨read, same, tolerated⟩ :=
    hc.ingressPort provider.controlPlane _ p looked
  cases h with
  | lookupFails e =>
    obtain _ | ⟨⟨rfl, ho⟩, _ | _⟩ := hl
    obtain ⟨f, rfl, -⟩ :=
      settled_of_isFault port ((hc.lookup provider s (some p) hs).2.2 e ho)
    exact ⟨.unknown f, looked⟩
  | taken h hf hi =>
    obtain _ | ⟨⟨rfl, -⟩, _ | _⟩ := hl
    exact ⟨.taken h (backend_eq_test hi), looked⟩
  | observed h q hf hi =>
    obtain _ | ⟨⟨rfl, -⟩, _ | ⟨⟨rfl, ho⟩, _ | _⟩⟩ := hl
    obtain rfl := same q ho
    exact ⟨.told h (backend_eq_kind hi), read⟩
  | undetermined h e hf hi he =>
    obtain _ | ⟨⟨rfl, -⟩, _ | ⟨⟨rfl, -⟩, _ | _⟩⟩ := hl
    exact ⟨.untold h e (backend_eq_kind hi), read⟩
  | introspectionFails h e hf hi he =>
    obtain _ | ⟨⟨rfl, -⟩, _ | ⟨⟨rfl, ho⟩, _ | _⟩⟩ := hl
    exact nomatch he.symm.trans (tolerated e ho)
  | malformed h f hf hm =>
    obtain _ | ⟨⟨rfl, ho⟩, _⟩ := hl
    exact nomatch hf.symm.trans (found ho)
  | portFails h mounts e hf hm =>
    obtain _ | ⟨⟨rfl, ho⟩, _⟩ := hl
    exact nomatch hf.symm.trans (found ho)
  | createFails h mounts e hf hm =>
    obtain _ | ⟨⟨rfl, ho⟩, _⟩ := hl
    exact nomatch hf.symm.trans (found ho)
  | created h mounts hf hm =>
    obtain _ | ⟨⟨rfl, ho⟩, _⟩ := hl
    exact nomatch hf.symm.trans (found ho)

end Transcript

/-- Without a look-up that misses the cluster, the mount specs are of no
account. -/
theorem run_eq_of_found (c : Collaborators σ) (provider : Cluster.Provider)
    (port : Int) (s : σ)
    (h : ∀ handle, ((c.lookup provider).run s).outcome = .ok handle →
      handle.found = true) (specs specs' : List String) :
    (run c provider port specs).run s = (run c provider port specs').run s := by
  simp only [run, Act.print, Act.run_bind, Act.run_emit, Act.run_attempt]
  rcases hl : (c.lookup provider).run s with ⟨es, t, e | handle⟩
  · cases e <;> rfl
  · have hf : handle.found = true := h handle (by rw [hl])
    simp only [hf, if_true]

/-! ## Tries -/

/-- A try for a port and mount specs, and how the collaborators behave in it. -/
structure Attempt (σ : Type) where
  collaborators : Collaborators σ
  port : Int
  specs : List String

/-- A try that was made, and the state in which it was made. -/
structure Trial (σ : Type) where
  attempt : Attempt σ
  state : σ

namespace Trial

variable (provider : Cluster.Provider) (x : Trial σ)

def report : Report σ Outcome :=
  (run x.attempt.collaborators provider x.attempt.port x.attempt.specs).run
    x.state

def log : List Entry :=
  ((run x.attempt.collaborators.logged provider x.attempt.port
    x.attempt.specs).run
    ⟨[], x.state⟩).state.log

/-- The try reused a cluster with the port, and would have been the same with
any other mount specs. -/
def Reuses (p : Int) : Prop :=
  Reuse provider x.attempt.port p (x.log provider) (x.report provider).outcome ∧
    ∀ specs, (Trial.mk { x.attempt with specs } x.state).report provider =
      x.report provider

theorem exists_transcript :
    Called x.attempt.collaborators x.state (x.log provider)
      (x.report provider).state ∧
      Transcript provider x.attempt.port x.attempt.specs (x.log provider)
        (x.report provider).outcome := by
  obtain ⟨log, hlog, hc, ht⟩ :=
    Provisioning.exists_transcript x.attempt.collaborators provider
    x.attempt.port x.attempt.specs ⟨[], x.state⟩
  have hr : x.report provider = Report.through Logged.world _ :=
    seen_run provider x.attempt.port x.attempt.specs
      x.attempt.collaborators.logged_seenAs ⟨[], x.state⟩
  rw [hr, Trial.log, hlog]
  exact ⟨hc, ht⟩

end Trial

/-- Makes one try after the other, each in the state that the one before
left. -/
def trials (provider : Cluster.Provider) : List (Attempt σ) → σ → List (Trial σ)
  | [], _ => []
  | a :: rest, s =>
    ⟨a, s⟩ :: trials provider rest ((Trial.mk a s).report provider).state

section Trials

variable {Holds : σ → Option Int → Prop} {provider : Cluster.Provider}

theorem reuses_of_mem_trials {p : Int} {attempts : List (Attempt σ)}
    (hc : ∀ a ∈ attempts, a.collaborators.Track Holds) {s : σ}
    (hs : Holds s (some p)) :
    ∀ x ∈ trials provider attempts s, x.Reuses provider p := by
  induction attempts generalizing s with
  | nil => exact nofun
  | cons a rest ih =>
    have ha : a.collaborators.Track Holds := hc a List.mem_cons_self
    obtain ⟨hl, ht⟩ := (Trial.mk a s).exists_transcript provider
    obtain ⟨hr, hs'⟩ := ht.of_present ha hs hl
    intro x hx
    rcases List.mem_cons.mp hx with rfl | hx
    · refine ⟨hr, fun specs => ?_⟩
      exact run_eq_of_found _ _ _ _ (ha.lookup provider s (some p) hs).2.1 _ _
    · exact ih (fun b hb => hc b (List.mem_cons_of_mem _ hb)) hs' x hx

/-- Without a cluster at first, the tries up to the one that creates it are
aborted, and all after that reuse it. -/
theorem trials_split (attempts : List (Attempt σ))
    (hc : ∀ a ∈ attempts, a.collaborators.Track Holds) (s : σ)
    (hs : Holds s none) :
    ∃ failed rest, trials provider attempts s = failed ++ rest ∧
      (∀ x ∈ failed, ∃ f,
        (x.report provider).outcome = .ok (.aborted x.attempt.port f)) ∧
      (rest = [] ∨ ∃ x later mounts, rest = x :: later ∧
        (x.report provider).outcome = .ok (.created x.attempt.port mounts) ∧
        ∀ y ∈ later, y.Reuses provider x.attempt.port) := by
  induction attempts generalizing s with
  | nil => exact ⟨[], [], rfl, nofun, .inl rfl⟩
  | cons a more ih =>
    have ha : a.collaborators.Track Holds := hc a List.mem_cons_self
    have hmore : ∀ b ∈ more, b.collaborators.Track Holds :=
      fun b hb => hc b (List.mem_cons_of_mem _ hb)
    obtain ⟨hl, ht⟩ := (Trial.mk a s).exists_transcript provider
    rcases ht.of_absent ha hs hl with ⟨hf, hs'⟩ | ⟨⟨mounts, hm⟩, hs'⟩
    · obtain ⟨failed, rest, heq, hfailed, hrest⟩ := ih hmore _ hs'
      refine ⟨⟨a, s⟩ :: failed, rest, ?_, ?_, hrest⟩
      · rw [trials, heq, List.cons_append]
      · intro x hx
        rcases List.mem_cons.mp hx with rfl | hx
        · exact hf
        · exact hfailed x hx
    · refine ⟨[], _, rfl, nofun, .inr ⟨⟨a, s⟩, _, mounts, rfl, hm, ?_⟩⟩
      exact reuses_of_mem_trials hmore hs'

end Trials

end Provisioning

/-! ## Rehearsals -/

/-- Collaborators for which the state is changed before each look-up. -/
def Collaborators.prepared (prepare : σ → σ) (c : Collaborators σ) :
    Collaborators σ :=
  { c with lookup := fun provider => do
      Act.modify prepare
      c.lookup provider }

theorem Collaborators.Track.prepared {Holds : σ → Option Int → Prop}
    {c : Collaborators σ} (h : c.Track Holds) {prepare : σ → σ}
    (hp : ∀ s k, Holds s k → Holds (prepare s) k) :
    (c.prepared prepare).Track Holds where
  lookup provider s k hs := h.lookup provider (prepare s) k (hp s k hs)
  ingressPort := h.ingressPort
  tryPort := h.tryPort
  create := h.create

namespace Rehearsal

/-- Whether the rehearsal has a cluster, and with which port.  What provisioning
is to meet with are faults, and tolerated ones where a port is read. -/
structure HasCluster (r : Rehearsal) (k : Option Int) : Prop where
  found : r.clusterExists = k.isSome
  port : r.port = k
  lookup : ∀ e, r.lookupFailure = some e → e.isFault = true
  ingressPort : ∀ e, r.ingressPortFailure = some e →
    PortChoice.tolerated e = true
  tryPort : ∀ e, r.tryPortFailure = some e → e.isFault = true
  create : ∀ e, r.createFailure = some e → e.isFault = true

theorem run_answer {α : Type} (call : Call)
    (failure : Rehearsal → Option Failure) (value : Rehearsal → α)
    (r : Rehearsal) :
    (answer call failure value).run r =
      ⟨[.call call], r, match failure r with
        | some e => .error e
        | none => .ok (value r)⟩ := by
  simp only [answer, Act.run_bind, Act.run_emit, Act.run_get]
  cases failure r <;> rfl

theorem track_collaborators : collaborators.Track HasCluster where
  lookup provider r k hr := by
    simp only [collaborators, run_answer]
    refine ⟨hr, fun h ho => ?_, fun e he => ?_⟩
    · cases hf : r.lookupFailure with
      | none =>
        rw [hf] at ho
        exact Except.ok.inj ho ▸ hr.found
      | some e => exact nomatch hf ▸ ho
    · cases hf : r.lookupFailure with
      | none => exact nomatch hf ▸ he
      | some e' =>
        rw [hf] at he
        exact Except.error.inj he ▸ hr.lookup e' hf
  ingressPort name r p hr := by
    simp only [collaborators, Act.run_bind, run_answer]
    cases hf : r.ingressPortFailure with
    | none =>
      simp only [readPort, Act.run_bind, Act.run_get, hr.port, Act.run_pure]
      exact ⟨hr, fun q ho => (Except.ok.inj ho).symm, nofun⟩
    | some e =>
      refine ⟨hr, nofun, fun e' he => ?_⟩
      exact Except.error.inj he ▸ hr.ingressPort e hf
  tryPort port r k hr := by
    simp only [collaborators, run_answer]
    refine ⟨hr, fun e he => ?_⟩
    cases hf : r.tryPortFailure with
    | none => exact nomatch hf ▸ he
    | some e' =>
      rw [hf] at he
      exact Except.error.inj he ▸ hr.tryPort e' hf
  create provider port mounts r hr := by
    simp only [collaborators, Act.run_bind, run_answer]
    cases hf : r.createFailure with
    | none =>
      refine ⟨fun _ => ?_, nofun⟩
      exact ⟨rfl, by simp [afterCreate, hr.port], hr.lookup, hr.ingressPort,
        hr.tryPort, hr.create⟩
    | some e =>
      refine ⟨nofun, fun e' he => ⟨?_, hr⟩⟩
      exact Except.error.inj he ▸ hr.create e hf

end Rehearsal

namespace Provisioning

/-- A try in a rehearsal in which the given failures are to be met with. -/
def rehearsed (port : Int) (specs : List String)
    (prepare : Rehearsal → Rehearsal) :
    Attempt Rehearsal :=
  ⟨Rehearsal.collaborators.prepared prepare, port, specs⟩

/-- The port is taken, then it is free, then another is asked for with a
malformed spec, then the port of the cluster cannot be told. -/
def fourTries : List (Attempt Rehearsal) :=
  [rehearsed 8000 [] fun r => { r with
      tryPortFailure :=
        some (.ofFault .portUnavailable "port 8000 is not available") },
    rehearsed 8000 ["/a:/b"] fun r => { r with tryPortFailure := none },
    rehearsed 9000 ["malformed"] id,
    rehearsed 9000 [] fun r => { r with
      ingressPortFailure := some (.ofFault .portIntrospection "no answer") }]

theorem track_fourTries :
    ∀ a ∈ fourTries, a.collaborators.Track Rehearsal.HasCluster := by
  intro a ha
  simp only [fourTries, List.mem_cons, List.not_mem_nil, or_false] at ha
  rcases ha with rfl | rfl | rfl | rfl
  all_goals
    refine Rehearsal.track_collaborators.prepared fun r k hr => ?_
    obtain ⟨hf, hp, hl, hi, ht, hc⟩ := hr
    constructor <;>
      simp_all [Failure.ofFault, Failure.isFault, PortChoice.tolerated]
  all_goals decide

/-- The four tries, the second of which creates the cluster. -/
theorem trials_split_fourTries :
    Rehearsal.HasCluster {} none ∧
      (trials ⟨.kind, "airbyte-abctl"⟩ fourTries {}).map
          (fun x =>
            (x.report ⟨.kind, "airbyte-abctl"⟩).outcome.toOption.map
              Outcome.port) =
        [some 8000, some 8000, some 8000, some 9000] ∧
      ∃ failed rest, trials ⟨.kind, "airbyte-abctl"⟩ fourTries {} =
        failed ++ rest ∧
        (∀ x ∈ failed, ∃ f, (x.report ⟨.kind, "airbyte-abctl"⟩).outcome =
          .ok (.aborted x.attempt.port f)) ∧
        (rest = [] ∨ ∃ x later mounts, rest = x :: later ∧
          (x.report ⟨.kind, "airbyte-abctl"⟩).outcome =
            .ok (.created x.attempt.port mounts) ∧
          ∀ y ∈ later, y.Reuses ⟨.kind, "airbyte-abctl"⟩ x.attempt.port) := by
  have none : Rehearsal.HasCluster {} none :=
    ⟨rfl, rfl, nofun, nofun, nofun, nofun⟩
  exact ⟨none, by decide +kernel,
    trials_split fourTries track_fourTries {} none⟩

end Provisioning

end SingleNode
