/-
# Transcripts of provisioning

A transcript is the log of a run of provisioning: which collaborators were
called, and what each of them answered.  There are nine shapes, one for each
course, and the outcome of the run can be read off the transcript without
looking at any state (`Transcript`).

`Called` is the other half.  It says that the answers in a log are those of the
collaborators, each call starting in the state in which the one before ended.
Whatever every call preserves is preserved by a log of calls, by induction on
`Called`.
-/
import SingleNode.Proofs.Pipeline.CallLog

namespace SingleNode

variable {σ : Type}

/-- The call was made in the first state, gave the answer that is entered, and
ended in the second state. -/
def Entry.IsCall (c : Collaborators σ) (s t : σ) : Entry → Prop
  | .version a => (c.version.run s).state = t ∧ (c.version.run s).outcome = a
  | .lookup p a =>
    ((c.lookup p).run s).state = t ∧ ((c.lookup p).run s).outcome = a
  | .ingressPort name a =>
    ((c.ingressPort name).run s).state = t ∧
    ((c.ingressPort name).run s).outcome = a
  | .tryPort port a =>
    ((c.tryPort port).run s).state = t ∧ ((c.tryPort port).run s).outcome = a
  | .create p port mounts a =>
    ((c.create p port mounts).run s).state = t ∧
    ((c.create p port mounts).run s).outcome = a
  | .install o a =>
    ((c.install o).run s).state = t ∧ ((c.install o).run s).outcome = a

/-- The log is one of calls that follow each other. -/
inductive Called (c : Collaborators σ) : σ → List Entry → σ → Prop
  | nil (s : σ) : Called c s [] s
  | cons {s t u : σ} {x : Entry} {log : List Entry} :
      x.IsCall c s t → Called c t log u → Called c s (x :: log) u

theorem Called.one {c : Collaborators σ} {s t : σ} {x : Entry}
    (h : x.IsCall c s t) :
    Called c s [x] t :=
  .cons h (.nil t)

theorem of_entered {α : Type} {entry : Except Failure α → Entry} {x : Act σ α}
    {s t : Logged σ} {d : List Event} {r : Except Failure α}
    (h : (entered entry x).silent.run s = ⟨d, t, r⟩) :
    (x.run s.world).state = t.world ∧ (x.run s.world).outcome = r := by
  rw [Act.run_silent] at h
  obtain ⟨-, rfl, rfl⟩ := Report.mk.inj h
  exact ⟨rfl, rfl⟩

namespace Provisioning

/-- The calls of a run of provisioning with their answers, and the outcome of
the run. -/
inductive Transcript (provider : Cluster.Provider) (port : Int)
    (specs : List String) :
    List Entry → Except Failure Outcome → Prop
  | lookupFails (e : Failure) :
      Transcript provider port specs [.lookup provider (.error e)]
        (settled port e)
  | taken (h : Cluster.Handle) :
      h.found = true → provider.supportsIntrospection = false →
      Transcript provider port specs [.lookup provider (.ok h)]
        (.ok (.validated port none))
  | observed (h : Cluster.Handle) (p : Int) :
      h.found = true → provider.supportsIntrospection = true →
      Transcript provider port specs
        [.lookup provider (.ok h), .ingressPort provider.controlPlane (.ok p)]
        (.ok (.validated p (some (.observed port p))))
  | undetermined (h : Cluster.Handle) (e : Failure) :
      h.found = true → provider.supportsIntrospection = true →
      PortChoice.tolerated e = true →
      Transcript provider port specs
        [.lookup provider (.ok h),
          .ingressPort provider.controlPlane (.error e)]
        (.ok (.validated port (some (.undetermined port))))
  | introspectionFails (h : Cluster.Handle) (e : Failure) :
      h.found = true → provider.supportsIntrospection = true →
      PortChoice.tolerated e = false →
      Transcript provider port specs
        [.lookup provider (.ok h),
          .ingressPort provider.controlPlane (.error e)] (.error e)
  | malformed (h : Cluster.Handle) (f : Fault) :
      h.found = false → Mount.parseAll specs = .error f →
      Transcript provider port specs [.lookup provider (.ok h)]
        (.ok (.aborted port f))
  | portFails (h : Cluster.Handle) (mounts : List Mount) (e : Failure) :
      h.found = false → Mount.parseAll specs = .ok mounts →
      Transcript provider port specs
        [.lookup provider (.ok h), .tryPort port (.error e)] (settled port e)
  | createFails (h : Cluster.Handle) (mounts : List Mount) (e : Failure) :
      h.found = false → Mount.parseAll specs = .ok mounts →
      Transcript provider port specs
        [.lookup provider (.ok h), .tryPort port (.ok ()),
          .create provider port mounts (.error e)]
        (settled port e)
  | created (h : Cluster.Handle) (mounts : List Mount) :
      h.found = false → Mount.parseAll specs = .ok mounts →
      Transcript provider port specs
        [.lookup provider (.ok h), .tryPort port (.ok ()),
          .create provider port mounts (.ok ())]
        (.ok (.created port mounts))

variable {c : Collaborators σ} {provider : Cluster.Provider} {port : Int}
  {specs : List String}

/-- Every course leaves a transcript of calls in the log. -/
theorem Course.exists_transcript {s t : Logged σ} {d : List Event}
    {r : Except Failure Outcome}
    (h : Course c.logged provider port specs s ⟨d, t, r⟩) :
    ∃ log, t.log = s.log ++ log ∧ Called c s.world log t.world ∧
      Transcript provider port specs log r := by
  cases h with
  | @lookupFails d t e hl =>
    exact ⟨_, log_entered hl, .one (of_entered hl), .lookupFails e⟩
  | @taken d t h hl hf hi =>
    exact ⟨_, log_entered hl, .one (of_entered hl), .taken h hf hi⟩
  | @observed d d' t u h p hl hf hi hp =>
    refine ⟨_, ?_, ?_, .observed h p hf hi⟩
    · simp [log_entered hp, log_entered hl]
    · exact .cons (of_entered hl) (.one (of_entered hp))
  | @undetermined d d' t u h e hl hf hi hp he =>
    refine ⟨_, ?_, ?_, .undetermined h e hf hi he⟩
    · simp [log_entered hp, log_entered hl]
    · exact .cons (of_entered hl) (.one (of_entered hp))
  | @introspectionFails d d' t u h e hl hf hi hp he =>
    refine ⟨_, ?_, ?_, .introspectionFails h e hf hi he⟩
    · simp [log_entered hp, log_entered hl]
    · exact .cons (of_entered hl) (.one (of_entered hp))
  | @malformed d t h f hl hf hm =>
    exact ⟨_, log_entered hl, .one (of_entered hl), .malformed h f hf hm⟩
  | @portFails d d' t u h mounts e hl hf hm hp =>
    refine ⟨_, ?_, ?_, .portFails h mounts e hf hm⟩
    · simp [log_entered hp, log_entered hl]
    · exact .cons (of_entered hl) (.one (of_entered hp))
  | @createFails d d' d'' t u v h mounts e hl hf hm hp hc =>
    refine ⟨_, ?_, ?_, .createFails h mounts e hf hm⟩
    · simp [log_entered hc, log_entered hp, log_entered hl]
    · exact .cons (of_entered hl) (.cons (of_entered hp) (.one (of_entered hc)))
  | @created d d' d'' t u v h mounts hl hf hm hp hc =>
    refine ⟨_, ?_, ?_, .created h mounts hf hm⟩
    · simp [log_entered hc, log_entered hp, log_entered hl]
    · exact .cons (of_entered hl) (.cons (of_entered hp) (.one (of_entered hc)))

theorem exists_transcript (c : Collaborators σ) (provider : Cluster.Provider)
    (port : Int) (specs : List String) (s : Logged σ) :
    let q := (run c.logged provider port specs).run s
    ∃ log, q.state.log = s.log ++ log ∧ Called c s.world log q.state.world ∧
      Transcript provider port specs log q.outcome :=
  (run_course c.logged provider port specs s).exists_transcript

end Provisioning

end SingleNode
