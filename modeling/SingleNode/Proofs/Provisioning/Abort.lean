/-
# What becomes of failures

A fault that stops provisioning is not raised: it is the reason of an aborted
outcome, and whoever goes on from there raises it again.  What is not a fault of
the workflow passes through.

There is a gap.  The handlers stand around the look-up and around the making of
a cluster, and not around the reading of a port, where only a port that cannot
be determined is expected.  Any other fault that reading the port raises leaves
provisioning as a failure (`fault_escapes`).  `Settles` says exactly what
happens in every case, and `run_settles` that this is what happens.
-/
import SingleNode.Proofs.Pipeline.Validation
import SingleNode.Proofs.Provisioning.Transcript

namespace SingleNode

/-- Holds for the faults of the workflow. -/
def Failure.isFault : Failure → Bool
  | .fault _ => true
  | _ => false

/-- Holds for the call that reads the port of a cluster. -/
def Entry.isIntrospection : Entry → Bool
  | .ingressPort .. => true
  | _ => false

namespace Provisioning

/-- The fault is in the way of a cluster: a call raised it and it is not
tolerated, or there is no cluster and it is that of a malformed spec. -/
def StoppedBy (specs : List String) (log : List Entry) (f : Fault) : Prop :=
  (∃ x ∈ log, x.failure? = some (.fault f) ∧ x.isTolerated = false) ∨
    found? log = some false ∧ Mount.parseAll specs = .error f

/-- How provisioning ends, by the log of its calls. -/
structure Settles (port : Int) (specs : List String) (log : List Entry)
    (r : Except Failure Outcome) : Prop where
  /-- It fails with what a call raised, if that is no fault or was raised by
  reading the port. -/
  raises : ∀ e, r = .error e ↔ ∃ x ∈ log, x.failure? = some e ∧
    x.isTolerated = false ∧
    (e.isFault = true → x.isIntrospection = true)
  /-- An outcome is aborted exactly if there is a fault in the way of a
  cluster. -/
  aborted : ∀ o, r = .ok o → (o.state = "aborted" ↔ ∃ f, StoppedBy specs log f)
  /-- That fault is the reason, it is what is raised again, and the port is the
  one asked for. -/
  reason : ∀ o, r = .ok o → ∀ f, StoppedBy specs log f →
    o.reason? = some f ∧ o.toExcept = .error (.fault f) ∧ o.port = port
  /-- Any other outcome has no reason and raises nothing; it says whether a
  cluster was found. -/
  ready : ∀ o, r = .ok o → (∀ f, ¬StoppedBy specs log f) → o.reason? = none ∧
    o.toExcept = .ok () ∧
    (found? log = some true ∧ o.state = "validated" ∨ found? log = some false ∧
      o.state = "created")

section StoppedBy

variable {specs : List String} {log : List Entry} {f g : Fault}

theorem not_stoppedBy (hx : ∀ x ∈ log, x.passes)
    (hm : found? log = some false →
      ∃ mounts, Mount.parseAll specs = .ok mounts) :
    ¬StoppedBy specs log f := by
  rintro (⟨x, hxl, he, ht⟩ | ⟨hf, hp⟩)
  · exact Entry.not_passes he ht (hx x hxl)
  · obtain ⟨mounts, hm⟩ := hm hf
    exact nomatch hp.symm.trans hm

end StoppedBy

variable {σ : Type} {provider : Cluster.Provider} {port : Int}
  {specs : List String} {log : List Entry}

theorem settles_aborted {f : Fault} (hs : ∀ g, StoppedBy specs log g ↔ g = f)
    (hr : ∀ x ∈ log, ∀ e, x.failure? = some e → x.isTolerated = false →
      e.isFault = true ∧ x.isIntrospection = false) :
    Settles port specs log (.ok (.aborted port f)) where
  raises e := by
    constructor
    · intro h
      cases h
    · rintro ⟨x, hx, he, ht, hi⟩
      obtain ⟨hf, hn⟩ := hr x hx e he ht
      exact nomatch hn.symm.trans (hi hf)
  aborted o ho := by
    obtain rfl := Except.ok.inj ho
    exact ⟨fun _ => ⟨f, (hs f).mpr rfl⟩, fun _ => rfl⟩
  reason o ho g hg := by
    obtain rfl := Except.ok.inj ho
    obtain rfl := (hs g).mp hg
    exact ⟨rfl, rfl, rfl⟩
  ready o ho hn := absurd ((hs f).mpr rfl) (hn f)

theorem settles_ready {o : Outcome} (hx : ∀ x ∈ log, x.passes)
    (hm : found? log = some false → ∃ mounts, Mount.parseAll specs = .ok mounts)
    (ho : o.reason? = none)
    (hf : found? log = some true ∧ o.state = "validated" ∨
      found? log = some false ∧ o.state = "created") :
    Settles port specs log (.ok o) where
  raises e := by
    constructor
    · intro h
      cases h
    · rintro ⟨x, hxl, he, ht, -⟩
      exact absurd (hx x hxl) (Entry.not_passes he ht)
  aborted o' h := by
    obtain rfl := Except.ok.inj h
    constructor
    · intro ha
      rcases hf with ⟨-, hs⟩ | ⟨-, hs⟩
      · exact absurd (ha.symm.trans hs) (by decide)
      · exact absurd (ha.symm.trans hs) (by decide)
    · rintro ⟨f, hs⟩
      exact absurd hs (not_stoppedBy hx hm)
  reason o' h f hs := absurd hs (not_stoppedBy hx hm)
  ready o' h _ := by
    obtain rfl := Except.ok.inj h
    refine ⟨ho, ?_, hf⟩
    rw [Outcome.toExcept, ho]

theorem settles_raised (before : List Entry) {x : Entry} {e : Failure}
    (hb : ∀ y ∈ before, y.passes) (he : x.failure? = some e)
    (ht : x.isTolerated = false)
    (hi : e.isFault = true → x.isIntrospection = true) :
    Settles port specs (before ++ [x]) (.error e) where
  raises e' := by
    constructor
    · intro h
      obtain rfl := Except.error.inj h
      exact ⟨x, List.mem_append_right _ (List.mem_singleton_self x), he, ht, hi⟩
    · rintro ⟨y, hy, hye, hyt, -⟩
      rcases List.mem_append.mp hy with hy | hy
      · exact absurd (hb y hy) (Entry.not_passes hye hyt)
      · obtain rfl := List.mem_singleton.mp hy
        exact congrArg Except.error (Option.some.inj (he.symm.trans hye))
  aborted _ h := nomatch h
  reason _ h := nomatch h
  ready _ h := nomatch h

theorem settles_settled (before : List Entry) {x : Entry} {e : Failure}
    (hb : ∀ y ∈ before, y.passes) (he : x.failure? = some e)
    (ht : x.isTolerated = false) (hi : x.isIntrospection = false)
    (hm : found? (before ++ [x]) = some false →
      ∃ mounts, Mount.parseAll specs = .ok mounts) :
    Settles port specs (before ++ [x]) (settled port e) := by
  cases e with
  | fault f =>
    have last {y : Entry} (hy : y ∈ before ++ [x]) {e' : Failure}
        (hye : y.failure? = some e') (hyt : y.isTolerated = false) : y = x := by
      rcases List.mem_append.mp hy with hy | hy
      · exact absurd (hb y hy) (Entry.not_passes hye hyt)
      · exact List.mem_singleton.mp hy
    refine settles_aborted (fun g => ⟨?_, ?_⟩) ?_
    · rintro (⟨y, hy, hye, hyt⟩ | ⟨hf, hp⟩)
      · obtain rfl := last hy hye hyt
        exact Failure.fault.inj (Option.some.inj (hye.symm.trans he))
      · obtain ⟨mounts, hm⟩ := hm hf
        exact nomatch hp.symm.trans hm
    · rintro rfl
      exact .inl
        ⟨x, List.mem_append_right _ (List.mem_singleton_self x), he, ht⟩
    · intro y hy e' hye hyt
      obtain rfl := last hy hye hyt
      obtain rfl := Option.some.inj (hye.symm.trans he)
      exact ⟨rfl, hi⟩
  | _ => exact settles_raised before hb he ht fun h => nomatch h

/-- How a run ends can be told from its transcript. -/
theorem Transcript.settles {r : Except Failure Outcome}
    (h : Transcript provider port specs log r) : Settles port specs log r := by
  cases h with
  | lookupFails e => exact settles_settled [] (by simp) rfl rfl rfl (by simp)
  | taken h hf hi =>
    exact settles_ready (by simp) (by simp [hf]) rfl (.inl ⟨by simp [hf], rfl⟩)
  | observed h p hf hi =>
    exact settles_ready (by simp) (by simp [hf]) rfl (.inl ⟨by simp [hf], rfl⟩)
  | undetermined h e hf hi he =>
    exact settles_ready (by simp [he]) (by simp [hf])
      rfl (.inl ⟨by simp [hf], rfl⟩)
  | introspectionFails h e hf hi he =>
    exact settles_raised [_] (by simp) rfl he fun _ => rfl
  | malformed h f hf hm =>
    refine settles_aborted (fun g => ⟨?_, ?_⟩) (by simp)
    · rintro (⟨x, hx, he, -⟩ | ⟨-, hp⟩)
      · simp [List.mem_singleton.mp hx] at he
      · exact Except.error.inj (hp.symm.trans hm)
    · rintro rfl
      exact .inr ⟨by simp [hf], hm⟩
  | portFails h mounts e hf hm =>
    exact settles_settled [_] (by simp) rfl rfl rfl fun _ => ⟨mounts, hm⟩
  | createFails h mounts e hf hm =>
    exact settles_settled [_, _] (by simp) rfl rfl rfl fun _ => ⟨mounts, hm⟩
  | created h mounts hf hm =>
    exact settles_ready (by simp) (fun _ => ⟨mounts, hm⟩)
      rfl (.inr ⟨by simp [hf], rfl⟩)

/-- Provisioning settles every fault but those that reading the port raises,
whatever the collaborators do.  The run whose calls are logged is the run itself
to all who do not look at the log, and the entries of the log are the answers of
the collaborators. -/
theorem run_settles (c : Collaborators σ) (provider : Cluster.Provider)
    (port : Int) (specs : List String) (s : Logged σ) :
    let q := (run c.logged provider port specs).run s
    (run c provider port specs).run s.world = q.through Logged.world ∧
      ∃ log, q.state.log = s.log ++ log ∧ Called c s.world log q.state.world ∧
        Settles port specs log q.outcome := by
  refine ⟨seen_run provider port specs c.logged_seenAs s, ?_⟩
  obtain ⟨log, hlog, hc, ht⟩ := exists_transcript c provider port specs s
  exact ⟨log, hlog, hc, ht.settles⟩

/-- A rehearsal with a cluster whose port cannot be read in time. -/
def lateRehearsal : Rehearsal :=
  { clusterExists := true
    ingressPortFailure :=
      some (.ofFault .cancelled "inspection did not finish within 600s") }

/-- All that this rehearsal raises are faults of the workflow, and yet
provisioning fails there. -/
theorem fault_escapes :
    (∀ failure ∈ Rehearsal.scripted, ∀ e, failure lateRehearsal = some e →
      e.isFault = true) ∧
      ((run Rehearsal.collaborators ⟨.kind, "airbyte-abctl"⟩ 8000 []).run
        lateRehearsal).outcome =
        .error (.ofFault .cancelled
          "inspection did not finish within 600s") := by
  refine ⟨?_, rfl⟩
  intro failure hf e he
  simp only [Rehearsal.scripted, List.mem_cons, List.not_mem_nil,
    or_false] at hf
  rcases hf with rfl | rfl | rfl | rfl | rfl | rfl
  case inr.inr.inl =>
    obtain rfl := Option.some.inj he
    rfl
  all_goals cases he

end Provisioning

end SingleNode
