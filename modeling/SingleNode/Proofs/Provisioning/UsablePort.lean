/-
# The ports that clusters are made with

A host can be reached at the ports from 1 to 65535 (`HostPort.isUsable`), and
where the port of a cluster is read nothing else counts.  The port that is asked
for is looked at in one place only: a new cluster is made after the port was
tried, and trying is all that the check does (`Machine.run_tryPort`).

Trying is not the same as looking.  The host takes the port 0 for "any port", so
0 passes; and a number that is no port at all is no fault of the workflow, so it
is not turned into an aborted outcome.  `OnlyUsable` is what provisioning
without a cluster should come to, and `onlyUsable_iff` says that it does for all
ports and mount specs but these: the specs can be read, the port is not taken,
and it is not usable.  What happens then is said, too, and `noPort_escapes` is
such a run.
-/
import SingleNode.Installation
import SingleNode.Proofs.Machine.Ports
import SingleNode.Proofs.Provisioning.Abort

namespace SingleNode

/-! ## The first malformed spec -/

namespace Mount

/-- The spec is malformed, and all before it can be read. -/
def FirstMalformed (specs : List String) (spec : String) : Prop :=
  ∃ before rest, specs = before ++ spec :: rest ∧
    (∀ x ∈ before, ∃ mount, parse x = .ok mount) ∧
    parse spec = .error (malformed spec)

theorem parse_eq_error {spec : String} {f : Fault} (h : parse spec = .error f) :
    f = malformed spec := by
  rw [parse] at h
  split at h
  · exact nomatch h
  · exact (Except.error.inj h).symm

theorem firstMalformed_of_parseAll {specs : List String} {f : Fault}
    (h : parseAll specs = .error f) :
    ∃ spec, FirstMalformed specs spec ∧ f = malformed spec := by
  induction specs with
  | nil => exact nomatch h
  | cons spec rest ih =>
    cases hs : parse spec with
    | error g =>
      obtain rfl := parse_eq_error hs
      have hf : malformed spec = f := by
        simpa [parseAll, hs, bind, Except.bind] using h
      exact ⟨spec, ⟨[], rest, rfl, nofun, hs⟩, hf.symm⟩
    | ok mount =>
      have hr : parseAll rest = .error f := by
        cases hr : parseAll rest with
        | error g => simpa [parseAll, hs, hr, bind, Except.bind] using h
        | ok mounts =>
          simp [parseAll, hs, hr, bind, Except.bind, pure, Except.pure] at h
      obtain ⟨bad, ⟨before, after, rfl, hb, hm⟩, rfl⟩ := ih hr
      refine ⟨bad, ⟨spec :: before, after, rfl, ?_, hm⟩, rfl⟩
      intro x hx
      rcases List.mem_cons.mp hx with rfl | hx
      · exact ⟨mount, hs⟩
      · exact hb x hx

end Mount

/-! ## Provisioning without a cluster -/

namespace Provisioning

open Machine (noPort portAnswer portTaken)

/-- What the calls and the outcome of provisioning should be for a port that is
asked for when there is no cluster: one is made with the port, which is usable
and not taken, or none is made and the fault is that of a malformed spec or that
of the port. -/
def OnlyUsable (provider : Cluster.Provider) (port : Int) (specs : List String)
    (busy : List Int) (log : List Entry) (r : Except Failure Outcome) : Prop :=
  (∃ mounts answer, Mount.parseAll specs = .ok mounts ∧
    HostPort.isUsable port = true ∧ port ∉ busy ∧
      .create provider port mounts answer ∈ log) ∨
    ((∀ x ∈ log, x.isCreate = false) ∧ ∃ f, r = .ok (.aborted port f) ∧
      ((∃ spec, Mount.FirstMalformed specs spec ∧ f = Mount.malformed spec ∧
        f.kind = .validation) ∨
        ((∃ mounts, Mount.parseAll specs = .ok mounts) ∧
          (Failure.fault f).IsPortFault)))

/-- Holds if all that is wrong is the port, and the port is not taken. -/
def Unchecked (port : Int) (specs : List String) (busy : List Int) : Prop :=
  (∃ mounts, Mount.parseAll specs = .ok mounts) ∧ port ∉ busy ∧
    HostPort.isUsable port = false

/-- How provisioning ends without a cluster, by the ports that are taken. -/
structure Judged (provider : Cluster.Provider) (port : Int)
    (specs : List String) (busy : List Int) (log : List Entry)
    (r : Except Failure Outcome) : Prop where
  /-- It comes to what it should unless the port is one that remains
  unchecked. -/
  onlyUsable : OnlyUsable provider port specs busy log r ↔
    ¬Unchecked port specs busy
  /-- Of these, 0 is what a cluster is made with. -/
  zero : Unchecked port specs busy → port = 0 →
    ∃ mounts answer, .create provider 0 mounts answer ∈ log
  /-- With any other no cluster is made, and the failure is no fault of the
  workflow. -/
  raises : Unchecked port specs busy → port ≠ 0 →
    r = .error noPort ∧ ∀ x ∈ log, x.isCreate = false

section Absent

variable {provider : Cluster.Provider} {port : Int} {specs : List String}
  {log : List Entry}
  {r : Except Failure Outcome}

/-- The three ways that provisioning can go after a look-up that found no
cluster. -/
theorem Transcript.of_notFound (h : Transcript provider port specs log r)
    (hn : found? log = some false) :
    ∃ handle,
      (∃ f, Mount.parseAll specs = .error f ∧
        log = [.lookup provider (.ok handle)] ∧
        r = .ok (.aborted port f)) ∨
      (∃ mounts e, Mount.parseAll specs = .ok mounts ∧
        log = [.lookup provider (.ok handle), .tryPort port (.error e)] ∧
        r = settled port e) ∨
      ∃ mounts answer, Mount.parseAll specs = .ok mounts ∧
        log = [.lookup provider (.ok handle), .tryPort port (.ok ()),
          .create provider port mounts answer] := by
  cases h with
  | lookupFails e => simp at hn
  | taken h hf hi => simp [hf] at hn
  | observed h p hf hi => simp [hf] at hn
  | undetermined h e hf hi he => simp [hf] at hn
  | introspectionFails h e hf hi he => simp [hf] at hn
  | malformed h f hf hm => exact ⟨h, .inl ⟨f, hm, rfl, rfl⟩⟩
  | portFails h mounts e hf hm =>
    exact ⟨h, .inr (.inl ⟨mounts, e, hm, rfl, rfl⟩)⟩
  | createFails h mounts e hf hm =>
    exact ⟨h, .inr (.inr ⟨mounts, .error e, hm, rfl⟩)⟩
  | created h mounts hf hm => exact ⟨h, .inr (.inr ⟨mounts, .ok (), hm, rfl⟩)⟩

theorem Transcript.eq_cons (h : Transcript provider port specs log r) :
    ∃ answer rest, log = .lookup provider answer :: rest := by
  cases h <;> exact ⟨_, _, rfl⟩

variable {busy : List Int}

theorem judged_of_malformed {f : Fault} (hm : Mount.parseAll specs = .error f)
    (hl : ∀ x ∈ log, x.isCreate = false) :
    Judged provider port specs busy log (.ok (.aborted port f)) := by
  have hu : ¬Unchecked port specs busy := by
    rintro ⟨⟨mounts, h⟩, -⟩
    exact nomatch hm.symm.trans h
  obtain ⟨spec, hs, rfl⟩ := Mount.firstMalformed_of_parseAll hm
  refine ⟨iff_of_true (.inr ⟨hl, _, rfl, .inl ⟨spec, hs, rfl, rfl⟩⟩) hu, ?_, ?_⟩
  · intro h
    exact absurd h hu
  · intro h
    exact absurd h hu

/-- A port that is taken aborts provisioning; a number that is no port is a
failure. -/
theorem judged_of_refused {mounts : List Mount} {e : Failure}
    (hm : Mount.parseAll specs = .ok mounts)
    (hl : ∀ x ∈ log, x.isCreate = false)
    (he : portAnswer busy port = .error e) :
    Judged provider port specs busy log (settled port e) := by
  rcases Machine.of_portAnswer_error he with ⟨hb, rfl⟩ | ⟨hb, hr, rfl⟩
  · have hu : ¬Unchecked port specs busy := fun h => h.2.1 hb
    have ho :
        OnlyUsable provider port specs busy log
        (settled port (.fault (portTaken port))) :=
      .inr ⟨hl, _, rfl, .inr ⟨⟨mounts, hm⟩, Machine.isPortFault_portTaken port⟩⟩
    refine ⟨iff_of_true ho hu, ?_, ?_⟩
    · intro h
      exact absurd h hu
    · intro h
      exact absurd h hu
  · have hu : Unchecked port specs busy := by
      refine ⟨⟨mounts, hm⟩, hb, ?_⟩
      rw [← Bool.not_eq_true, HostPort.isUsable_iff]
      omega
    have ho :
        ¬OnlyUsable provider port specs busy log (settled port noPort) := by
      rintro (⟨mounts, answer, -, -, -, hc⟩ | ⟨-, f, hf, -⟩)
      · exact nomatch hl _ hc
      · exact nomatch hf
    refine ⟨iff_of_false ho (not_not_intro hu), ?_, ?_⟩
    · rintro - rfl
      omega
    · intro _ _
      exact ⟨rfl, hl⟩

theorem judged_of_create {mounts : List Mount} {answer : Except Failure Unit}
    (hm : Mount.parseAll specs = .ok mounts)
    (ha : portAnswer busy port = .ok ())
    (hc : .create provider port mounts answer ∈ log) :
    Judged provider port specs busy log r := by
  obtain ⟨hb, hr⟩ := Machine.portAnswer_eq_ok_iff.mp ha
  have ho : OnlyUsable provider port specs busy log r ↔
      HostPort.isUsable port = true := by
    constructor
    · rintro (⟨_, _, -, hu, -⟩ | ⟨hl, -⟩)
      · exact hu
      · exact nomatch hl _ hc
    · intro hu
      exact .inl ⟨mounts, answer, hm, hu, hb, hc⟩
  have hu : Unchecked port specs busy ↔ ¬HostPort.isUsable port = true := by
    rw [Bool.not_eq_true]
    exact ⟨fun h => h.2.2, fun h => ⟨⟨mounts, hm⟩, hb, h⟩⟩
  refine ⟨?_, ?_, ?_⟩
  · rw [ho, hu, Classical.not_not]
  · rintro - rfl
    exact ⟨mounts, answer, hc⟩
  · intro h h0
    rw [hu, HostPort.isUsable_iff] at h
    omega

end Absent

section Called

variable {σ : Type} {c : Collaborators σ} {provider : Cluster.Provider}
  {port : Int} {specs : List String} {log : List Entry}
  {r : Except Failure Outcome} {s t : σ}

theorem Transcript.found?_eq (h : Transcript provider port specs log r)
    (hc : Called c s log t) {handle : Cluster.Handle}
    (hl : ((c.lookup provider).run s).outcome = .ok handle) :
    found? log = some handle.found := by
  obtain ⟨answer, rest, rfl⟩ := h.eq_cons
  obtain _ | ⟨⟨-, ho⟩, -⟩ := hc
  obtain rfl : answer = .ok handle := ho.symm.trans hl
  simp

theorem answer_tryPort {machine : σ → Machine}
    (hp : Seen machine (c.tryPort port) (Machine.tryPort port))
    {found answer : Except Failure _} {rest : List Entry}
    (hc : Called c s (.lookup provider found :: .tryPort port answer :: rest)
      t) :
    answer =
      portAnswer
      (machine ((c.lookup provider).run s).state).busyPorts port := by
  obtain _ | ⟨⟨rfl, -⟩, _ | ⟨⟨-, rfl⟩, -⟩⟩ := hc
  have hm := hp ((c.lookup provider).run s).state
  rw [Machine.run_tryPort] at hm
  exact (congrArg Report.outcome hm).symm

end Called

variable {σ : Type}

/-- Provisioning without a cluster, with a port that is tried on a machine, is
judged by the ports that are taken there.  A machine gives those ports that are
not taken and are usable or 0, and its refusal is a fault exactly if the port is
taken. -/
theorem onlyUsable_iff (c : Collaborators σ) (machine : σ → Machine)
    (provider : Cluster.Provider) (port : Int) (specs : List String)
    (s : Logged σ) (handle : Cluster.Handle)
    (hp : Seen machine (c.tryPort port) (Machine.tryPort port))
    (hl : ((c.lookup provider).run s.world).outcome = .ok handle)
    (hf : handle.found = false) :
    let q := (run c.logged provider port specs).run s
    let busy := (machine ((c.lookup provider).run s.world).state).busyPorts
    (run c provider port specs).run s.world = q.through Logged.world ∧
      (∃ log, q.state.log = s.log ++ log ∧ Called c s.world log q.state.world ∧
        Judged provider port specs busy log q.outcome) ∧
      ∀ m : Machine, let answer := ((Machine.tryPort port).run m).outcome
        (answer = .ok () ↔ port ∉ m.busyPorts ∧
          (HostPort.isUsable port = true ∨ port = 0)) ∧
          ∀ e, answer = .error e → (e.IsPortFault ↔ port ∈ m.busyPorts) := by
  intro q busy
  refine ⟨seen_run provider port specs c.logged_seenAs s, ?_, ?_⟩
  · obtain ⟨log, hlog, hc, ht⟩ := exists_transcript c provider port specs s
    have hn : found? log = some false := hf ▸ ht.found?_eq hc hl
    refine ⟨log, hlog, hc, ?_⟩
    obtain ⟨h,
      ⟨f, hm, rfl, ho⟩ | ⟨mounts, e, hm, rfl, ho⟩ | ⟨mounts,
      answer, hm, rfl⟩⟩ :=
      ht.of_notFound hn
    · exact ho ▸ judged_of_malformed hm (by simp [Entry.isCreate])
    · exact ho ▸ judged_of_refused hm (by simp [Entry.isCreate])
        (answer_tryPort hp hc).symm
    · exact judged_of_create hm (answer_tryPort hp hc).symm
        (.tail _ (.tail _ (.head _)))
  · intro m answer
    have ha : answer = portAnswer m.busyPorts port :=
      congrArg Report.outcome (Machine.run_tryPort port m)
    rw [ha]
    refine ⟨?_, ?_⟩
    · rw [Machine.portAnswer_eq_ok_iff, HostPort.isUsable_iff]
      exact and_congr_right fun _ => by omega
    · intro e he
      rcases Machine.of_portAnswer_error he with ⟨hb, rfl⟩ | ⟨hb, -, rfl⟩
      · exact iff_of_true (Machine.isPortFault_portTaken port) hb
      · exact iff_of_false Machine.not_isPortFault_noPort hb

/-- A target with the defaults of the settings. -/
def plainTarget : Chart.Target :=
  ⟨⟨.kind, Cluster.defaultName⟩, .default "/root", .default⟩

/-- A machine without a cluster, on which the port 8000 is taken. -/
def busyMachine : Machine := { tree := .empty ["work"], busyPorts := [8000] }

/-- On this machine, with a mount spec that can be read, 65536 is a port that
remains unchecked. -/
theorem onlyUsable_iff_busyMachine :
    let c := Installation.collaborators plainTarget
    let s : Logged Machine := ⟨[], busyMachine⟩
    let q := (run c.logged plainTarget.provider 65536 ["/a:/b"]).run s
    Seen id (c.tryPort 65536) (Machine.tryPort 65536) ∧
      ((c.lookup plainTarget.provider).run busyMachine).outcome =
        .ok ⟨Cluster.defaultName, false, plainTarget.provider⟩ ∧
      (run c plainTarget.provider 65536 ["/a:/b"]).run busyMachine =
        q.through Logged.world ∧
      ∃ log, q.state.log = log ∧
        (OnlyUsable plainTarget.provider 65536 ["/a:/b"] [8000] log q.outcome ↔
          ¬Unchecked 65536 ["/a:/b"] [8000]) ∧
        Unchecked 65536 ["/a:/b"] [8000] := by
  intro c s q
  have hp : Seen id (c.tryPort 65536) (Machine.tryPort 65536) := fun _ => rfl
  have hl : ((c.lookup plainTarget.provider).run busyMachine).outcome =
      .ok ⟨Cluster.defaultName, false, plainTarget.provider⟩ := by
    rfl
  obtain ⟨hq, ⟨log, hlog, -, hj⟩, -⟩ :=
    onlyUsable_iff c id plainTarget.provider 65536 ["/a:/b"] s _ hp hl rfl
  refine ⟨hp, hl, hq, log, hlog, hj.onlyUsable, ⟨_, rfl⟩, by decide, rfl⟩

/-- With a number that is no port the run fails, and comes to nothing that it
should.  With the port 0 a cluster is made, though nobody can reach it there. -/
theorem noPort_escapes :
    let c := Installation.collaborators plainTarget
    let q (port : Int) :=
      (run c.logged plainTarget.provider port []).run ⟨[], busyMachine⟩
    (q 65536).outcome = .error noPort ∧
      ¬OnlyUsable plainTarget.provider 65536 [] [8000] (q 65536).state.log
        (q 65536).outcome ∧
      (q 0).outcome.toOption = some (.created 0 []) ∧
      HostPort.isUsable 0 = false := by
  intro c q
  have ho : (q 65536).outcome = .error noPort := rfl
  refine ⟨ho, ?_, by decide +kernel, rfl⟩
  rintro (⟨mounts, answer, -, hu, -⟩ | ⟨-, f, hf, -⟩)
  · exact nomatch hu
  · exact nomatch ho.symm.trans hf

end Provisioning

end SingleNode
