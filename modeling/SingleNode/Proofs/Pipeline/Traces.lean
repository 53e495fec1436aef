/-
# What the pipeline leaves behind

A relation that holds of every call of a collaborator holds of the whole of
provisioning, and of all that comes after the engine has told its version.  The
call for the version is kept apart (`Pipeline.Course.parts`): it is the first,
and later calls may rely on what it brought about.
-/
import SingleNode.Proofs.Act.Traces
import SingleNode.Proofs.Pipeline.Course

namespace SingleNode

variable {σ : Type}

/-- What the collaborators leave behind. -/
structure Collaborators.Traces (P : σ → List Event → σ → Prop)
    (c : Collaborators σ) : Prop where
  version : c.version.Traces P
  lookup : ∀ p, (c.lookup p).Traces P
  ingressPort : ∀ name, (c.ingressPort name).Traces P
  tryPort : ∀ port, (c.tryPort port).Traces P
  create : ∀ p port mounts, (c.create p port mounts).Traces P
  install : ∀ o, (c.install o).Traces P

section

variable {P : σ → List Event → σ → Prop} {c : Collaborators σ}
  {provider : Cluster.Provider} {s : σ}

/-- What is traced of silent calls is traced of a course of provisioning. -/
theorem Provisioning.Course.traces {port : Int} {specs : List String}
    {r : Report σ Outcome} (hP : Act.Tracing P)
    (hd : ∀ s es t, P s es t → P s (deeds es) t) (hc : c.Traces P)
    (h : Course c provider port specs s r) : P s r.events r.state := by
  have call {α : Type} {x : Act σ α} {s t : σ} {d : List Event}
      {q : Except Failure α} (hx : x.Traces P)
      (h : x.silent.run s = ⟨d, t, q⟩) : P s d t := by
    have hs : P s (x.silent.run s).events (x.silent.run s).state :=
      hx.silent hd s
    rwa [h] at hs
  cases h with
  | lookupFails hl => exact call (hc.lookup _) hl
  | taken hl => exact call (hc.lookup _) hl
  | observed hl _ _ hp =>
    exact hP.append (call (hc.lookup _) hl) (call (hc.ingressPort _) hp)
  | undetermined hl _ _ hp =>
    exact hP.append (call (hc.lookup _) hl) (call (hc.ingressPort _) hp)
  | introspectionFails hl _ _ hp =>
    exact hP.append (call (hc.lookup _) hl) (call (hc.ingressPort _) hp)
  | malformed hl => exact call (hc.lookup _) hl
  | portFails hl _ _ hp =>
    exact hP.append (call (hc.lookup _) hl) (call (hc.tryPort _) hp)
  | createFails hl _ _ hp hk =>
    exact hP.append (call (hc.lookup _) hl)
      (hP.append (call (hc.tryPort _) hp) (call (hc.create _ _ _) hk))
  | created hl _ _ hp hk =>
    exact hP.append (call (hc.lookup _) hl)
      (hP.append (call (hc.tryPort _) hp) (call (hc.create _ _ _) hk))

/-- An installation is the call for the version, and what is traced of silent
calls is traced of the rest if there is a rest. -/
theorem Pipeline.Course.parts {env : Settings.Environment}
    {request : Installation.Request} {r : Report σ Installation.Options}
    (hP : Act.Tracing P) (hd : ∀ s es t, P s es t → P s (deeds es) t)
    (hc : c.Traces P) (h : Course c provider env request s r) :
    (∃ e, c.version.silent.run s = ⟨r.events, r.state, .error e⟩) ∨
      ∃ d t v rest, c.version.silent.run s = ⟨d, t, .ok v⟩ ∧
        r.events = d ++ rest ∧ P t rest r.state := by
  have last {o : Installation.Options} {t u : σ} {d : List Event}
      {q : Except Failure Unit}
      (h : (c.install o).silent.run t = ⟨d, u, q⟩) : P t d u := by
    have hs :
        P t ((c.install o).silent.run t).events
        ((c.install o).silent.run t).state :=
      (hc.install o).silent hd t
    rwa [h] at hs
  cases h with
  | engineFails hv => exact .inl ⟨_, hv⟩
  | provisioningFails hv hp =>
    exact .inr ⟨_, _, _, _, hv, rfl, hp.traces hP hd hc⟩
  | incomplete hv hp => exact .inr ⟨_, _, _, _, hv, rfl, hp.traces hP hd hc⟩
  | installFails hv hp _ _ hi =>
    exact .inr ⟨_, _, _, _, hv, rfl, hP.append (hp.traces hP hd hc) (last hi)⟩
  | installed hv hp _ _ hi =>
    exact .inr ⟨_, _, _, _, hv, rfl, hP.append (hp.traces hP hd hc) (last hi)⟩

end

end SingleNode
