/-
# The courses of provisioning

Provisioning calls one collaborator after another, and each of them may fail in
its own way.  `Course` lists what can happen, one constructor for each way to
end: which calls were made, from which state each of them started, what it
answered, and what becomes of that.  Every run is one of them (`run_course`), so
whatever is to be shown of provisioning is a case analysis on courses and nobody
opens `Provisioning.run` again.

A fault does not leave provisioning but becomes an aborted outcome (`settled`);
`ready` is the view of those who go on after it, for whom the two are the same.
-/
import SingleNode.Proofs.Act.Deeds
import SingleNode.Provisioning

namespace SingleNode

namespace PortChoice

/-- Holds for the failures to read a port that only lead to a warning. -/
def tolerated : Failure → Bool
  | .fault f => f.kind.isA .indeterminateState
  | _ => false

theorem silent_choose {σ : Type} (ingressPort : String → Act σ Int)
    (container : String) (requested : Int) (s : σ) :
    (choose ingressPort container requested).silent.run s =
      match (ingressPort container).silent.run s with
      | ⟨d, t, .ok port⟩ => ⟨d, t, .ok (observed requested port)⟩
      | ⟨d, t, .error e⟩ =>
        ⟨d, t,
          if tolerated e then .ok (undetermined requested) else .error e⟩ := by
  simp only [choose, Act.silent_bind, Act.silent_attempt, Act.run_bind,
    Act.run_attempt]
  rcases (ingressPort container).silent.run s with ⟨d, t, e | port⟩
  · cases e with
    | fault f =>
      by_cases hf : f.kind.isA .indeterminateState = true
      · simp [tolerated, hf]
      · simp [tolerated, hf]
    | _ => simp [tolerated]
  · simp

end PortChoice

namespace Provisioning

variable {σ : Type}

/-- How provisioning ends because of a failure. -/
def settled (port : Int) : Failure → Except Failure Outcome
  | .fault f => .ok (.aborted port f)
  | e => .error e

/-- The outcome if there is a cluster to install into, else the failure because
of which there is none. -/
def ready : Except Failure Outcome → Except Failure Outcome
  | .ok (.aborted _ f) => .error (.fault f)
  | r => r

theorem ready_settled (port : Int) (e : Failure) :
    ready (settled port e) = .error e := by
  cases e <;> rfl

theorem of_ready {r : Except Failure Outcome} {o : Outcome}
    (h : ready r = .ok o) :
    r = .ok o ∧ o.toExcept = .ok () := by
  cases r with
  | error e => exact nomatch h
  | ok o' =>
    cases o' with
    | aborted => exact nomatch h
    | validated | created =>
      obtain rfl := Except.ok.inj h
      exact ⟨rfl, rfl⟩

theorem ofExcept_bind_toExcept {τ β : Type} (r : Except Failure Outcome)
    (f : Outcome → Act τ β) :
    (Act.ofExcept r >>= fun o => Act.ofExcept o.toExcept >>= fun _ => f o) =
      match ready r with
      | .ok o => f o
      | .error e => Act.fail e := by
  cases r with
  | error e => rfl
  | ok o => cases o <;> rfl

/-- What can happen when provisioning runs in the state `s`. -/
inductive Course (c : Collaborators σ) (provider : Cluster.Provider)
    (port : Int) (specs : List String) (s : σ) : Report σ Outcome → Prop
  | lookupFails {d : List Event} {t : σ} {e : Failure} :
      (c.lookup provider).silent.run s = ⟨d, t, .error e⟩ →
      Course c provider port specs s ⟨d, t, settled port e⟩
  | taken {d : List Event} {t : σ} {h : Cluster.Handle} :
      (c.lookup provider).silent.run s = ⟨d, t, .ok h⟩ → h.found = true →
      provider.supportsIntrospection = false →
      Course c provider port specs s ⟨d, t, .ok (.validated port none)⟩
  | observed {d d' : List Event} {t u : σ} {h : Cluster.Handle} {p : Int} :
      (c.lookup provider).silent.run s = ⟨d, t, .ok h⟩ → h.found = true →
      provider.supportsIntrospection = true →
      (c.ingressPort provider.controlPlane).silent.run t = ⟨d', u, .ok p⟩ →
      Course c provider port specs s
        ⟨d ++ d', u, .ok (.validated p (some (.observed port p)))⟩
  | undetermined {d d' : List Event} {t u : σ} {h : Cluster.Handle}
      {e : Failure} :
      (c.lookup provider).silent.run s = ⟨d, t, .ok h⟩ → h.found = true →
      provider.supportsIntrospection = true →
      (c.ingressPort provider.controlPlane).silent.run t = ⟨d', u, .error e⟩ →
      PortChoice.tolerated e = true →
      Course c provider port specs s
        ⟨d ++ d', u, .ok (.validated port (some (.undetermined port)))⟩
  | introspectionFails {d d' : List Event} {t u : σ} {h : Cluster.Handle}
      {e : Failure} :
      (c.lookup provider).silent.run s = ⟨d, t, .ok h⟩ → h.found = true →
      provider.supportsIntrospection = true →
      (c.ingressPort provider.controlPlane).silent.run t = ⟨d', u, .error e⟩ →
      PortChoice.tolerated e = false →
      Course c provider port specs s ⟨d ++ d', u, .error e⟩
  | malformed {d : List Event} {t : σ} {h : Cluster.Handle} {f : Fault} :
      (c.lookup provider).silent.run s = ⟨d, t, .ok h⟩ → h.found = false →
      Mount.parseAll specs = .error f →
      Course c provider port specs s ⟨d, t, .ok (.aborted port f)⟩
  | portFails {d d' : List Event} {t u : σ} {h : Cluster.Handle}
      {mounts : List Mount}
      {e : Failure} :
      (c.lookup provider).silent.run s = ⟨d, t, .ok h⟩ → h.found = false →
      Mount.parseAll specs = .ok mounts →
      (c.tryPort port).silent.run t = ⟨d', u, .error e⟩ →
      Course c provider port specs s ⟨d ++ d', u, settled port e⟩
  | createFails {d d' d'' : List Event} {t u v : σ} {h : Cluster.Handle}
      {mounts : List Mount}
      {e : Failure} :
      (c.lookup provider).silent.run s = ⟨d, t, .ok h⟩ → h.found = false →
      Mount.parseAll specs = .ok mounts →
      (c.tryPort port).silent.run t = ⟨d', u, .ok ()⟩ →
      (c.create provider port mounts).silent.run u = ⟨d'', v, .error e⟩ →
      Course c provider port specs s ⟨d ++ (d' ++ d''), v, settled port e⟩
  | created {d d' d'' : List Event} {t u v : σ} {h : Cluster.Handle}
      {mounts : List Mount} :
      (c.lookup provider).silent.run s = ⟨d, t, .ok h⟩ → h.found = false →
      Mount.parseAll specs = .ok mounts →
      (c.tryPort port).silent.run t = ⟨d', u, .ok ()⟩ →
      (c.create provider port mounts).silent.run u = ⟨d'', v, .ok ()⟩ →
      Course c provider port specs s
        ⟨d ++ (d' ++ d''), v, .ok (.created port mounts)⟩

section Silent

variable (c : Collaborators σ) (provider : Cluster.Provider) (port : Int)
  (specs : List String)

@[simp] theorem silent_abort (f : Fault) :
    (abort port f : Act σ Outcome).silent = pure (.aborted port f) := by
  simp [abort]

theorem run_silent_validate (s : σ) :
    (validate c provider port).silent.run s =
      if provider.supportsIntrospection then
        match (PortChoice.choose c.ingressPort provider.controlPlane
          port).silent.run s with
        | ⟨d, t, .ok r⟩ => ⟨d, t, .ok (.validated r.effective (some r))⟩
        | ⟨d, t, .error e⟩ => ⟨d, t, .error e⟩
      else ⟨[], s, .ok (.validated port none)⟩ := by
  simp only [validate, Act.silent_bind, Act.silent_print, pure_bind,
    Act.silent_ite]
  by_cases hi : provider.supportsIntrospection = true
  · simp only [hi, if_true, Act.silent_map]
    simp only [map_eq_pure_bind, Act.run_bind]
    rcases (PortChoice.choose c.ingressPort provider.controlPlane
      port).silent.run s with
      ⟨d, t, e | r⟩
    · rfl
    · -- the warning is a message, so both ways of telling the user come to
      -- the same
      cases hw : (some r).bind PortChoice.warning? <;> simp [hw]
  · simp [hi]

theorem silent_create :
    (create c provider port specs).silent =
      Act.ofFault (Mount.parseAll specs) >>= fun mounts =>
        (c.tryPort port).silent >>= fun _ =>
          (c.create provider port mounts).silent >>= fun _ =>
            pure (.created port mounts) := by
  simp only [create, Act.silent_bind, Act.silent_print, Act.silent_stage,
    Act.silent_ofFault,
    Act.silent_onFault, Act.onFault_pure, Act.silent_pure, pure_bind]

theorem run_silent_settle (x : Act σ Outcome) (s : σ) :
    (settle port x).silent.run s =
      match x.silent.run s with
      | ⟨d, t, .ok o⟩ => ⟨d, t, .ok o⟩
      | ⟨d, t, .error e⟩ => ⟨d, t, settled port e⟩ := by
  rw [settle, Act.silent_handle, Act.run_handle]
  rcases x.silent.run s with ⟨d, t, e | o⟩
  · cases e <;> simp [settled]
  · rfl

theorem course_validate {d : List Event} {s t : σ} {h : Cluster.Handle}
    (hl : (c.lookup provider).silent.run s = ⟨d, t, .ok h⟩)
    (hf : h.found = true) :
    let r := (validate c provider port).silent.run t
    Course c provider port specs s ⟨d ++ r.events, r.state, r.outcome⟩ := by
  simp only [run_silent_validate]
  by_cases hi : provider.supportsIntrospection = true
  · simp only [hi, if_true, PortChoice.silent_choose]
    rcases hp : (c.ingressPort provider.controlPlane).silent.run t
      with ⟨d', u, e | p⟩
    · cases ht : PortChoice.tolerated e with
      | true =>
        simp only [ht, if_true]
        exact Course.undetermined hl hf hi hp ht
      | false =>
        simp only [ht, Bool.false_eq_true, if_false]
        exact Course.introspectionFails hl hf hi hp ht
    · exact Course.observed hl hf hi hp
  · have hc :
        Course c provider port specs s ⟨d, t, .ok (.validated port none)⟩ :=
      .taken hl hf (by simpa using hi)
    simpa [hi] using hc

theorem course_create {d : List Event} {s t : σ} {h : Cluster.Handle}
    (hl : (c.lookup provider).silent.run s = ⟨d, t, .ok h⟩)
    (hf : h.found = false) :
    let r := (settle port (create c provider port specs)).silent.run t
    Course c provider port specs s ⟨d ++ r.events, r.state, r.outcome⟩ := by
  simp only [run_silent_settle, silent_create, Act.run_bind, Act.run_ofFault]
  cases hm : Mount.parseAll specs with
  | error f => simpa [settled] using Course.malformed hl hf hm
  | ok mounts =>
    rcases hp : (c.tryPort port).silent.run t with ⟨d', u, e | _⟩
    · simpa using Course.portFails hl hf hm hp
    · rcases hc : (c.create provider port mounts).silent.run u
        with ⟨d'', v, e | _⟩
      · simpa [hc] using Course.createFails hl hf hm hp hc
      · simpa [hc] using Course.created hl hf hm hp hc

/-- Every run of provisioning takes one of the courses. -/
theorem run_course (s : σ) :
    Course c provider port specs s
      ((run c provider port specs).silent.run s) := by
  simp only [run, Act.silent_bind, Act.silent_print, pure_bind,
    Act.silent_attempt, Act.run_bind, Act.run_attempt]
  rcases hl : (c.lookup provider).silent.run s with ⟨d, t, e | h⟩
  · have hc : Course c provider port specs s ⟨d, t, settled port e⟩ :=
      .lookupFails hl
    cases e <;> simpa [settled] using hc
  · cases hf : h.found with
    | true => simpa [hf] using course_validate c provider port specs hl hf
    | false => simpa [hf] using course_create c provider port specs hl hf

variable {c provider port specs}

/-- A course is the run: what it says of the calls leaves no other. -/
theorem Course.eq_run {s : σ} {r : Report σ Outcome}
    (h : Course c provider port specs s r) :
    r = (run c provider port specs).silent.run s := by
  have reuse (t : σ) := run_silent_validate c provider port t
  have make (t : σ) := run_silent_settle port (create c provider port specs) t
  simp only [silent_create, Act.run_bind, Act.run_ofFault] at make
  simp only [run, Act.silent_bind, Act.silent_print, pure_bind,
    Act.silent_attempt, Act.run_bind, Act.run_attempt]
  cases h with
  | @lookupFails d t e hl =>
    rw [hl]
    cases e <;> simp [settled]
  | taken hl hf hi => simp [hl, hf, reuse, hi]
  | observed hl hf hi hp =>
    simp [hl, hf, reuse, hi, PortChoice.silent_choose, hp, PortChoice.observed]
  | undetermined hl hf hi hp ht =>
    simp [hl, hf, reuse, hi, PortChoice.silent_choose, hp, ht,
      PortChoice.undetermined]
  | introspectionFails hl hf hi hp ht =>
    simp [hl, hf, reuse, hi, PortChoice.silent_choose, hp, ht]
  | malformed hl hf hm => simp [hl, hf, make, hm, settled]
  | portFails hl hf hm hp => simp [hl, hf, make, hm, hp]
  | createFails hl hf hm hp hc => simp [hl, hf, make, hm, hp, hc]
  | created hl hf hm hp hc => simp [hl, hf, make, hm, hp, hc]

end Silent

end Provisioning

end SingleNode
