/-
# Reading a port fails open

The port of a cluster that is there is read from the engine, and whatever goes
wrong with that is no reason to stop.  Two things can go wrong, each in its own
place: the engine cannot be reached, which is a fault of another stage when the
engine itself refuses (`refusal`), and the container cannot be inspected.  Both
end as the one kind of failure that a choice of port tolerates
(`tolerated_portFailure`), and so does a report that names no port
(`outcome_ingressPort`).

So a choice always comes about, and it is one of two: that of the first port
that is given (`Follows`), or that of the port asked for, with a warning
(`FallsBack`).
-/
import SingleNode.Proofs.Machine.Requests

namespace SingleNode

namespace PortChoice

/-- The choice is the port that was read, and the user is told both ports if it
is another one. -/
structure Follows (r : PortChoice) (requested port : Int) : Prop where
  effective : r.effective = port
  determinable : r.determinable = true
  conflict : r.conflict = true ↔ port ≠ requested
  warns : r.warning?.isSome = true ↔ r.conflict = true
  names : ∀ w, r.warning? = some w →
    ∃ before between after, w = before ++ toString port ++ between ++
      toString requested ++ after

/-- The choice is the port asked for, because there is no telling, and the user
is warned. -/
structure FallsBack (r : PortChoice) (requested : Int) : Prop where
  effective : r.effective = requested
  determinable : r.determinable = false
  conflict : r.conflict = false
  warns : r.warning?.isSome = true

theorem warning?_observed {requested port : Int} (h : port ≠ requested) :
    ∃ before between after, (observed requested port).warning? =
      some (before ++ toString port ++ between ++
        toString requested ++ after) := by
  have hc : (observed requested port).conflict = true := decide_eq_true h
  rw [warning?, if_neg nofun, if_pos hc]
  have regroup (a p b r c d e : String) :
      a ++ p ++ b ++ r ++ c ++ d ++ e = a ++ p ++ b ++ r ++ (c ++ d ++ e) := by
    simp only [String.append_assoc]
  exact ⟨_, _, _, congrArg some (regroup _ _ _ _ _ _ _)⟩

theorem follows_observed (requested port : Int) :
    (observed requested port).Follows requested port := by
  have hi : (observed requested port).conflict = true ↔ port ≠ requested :=
    decide_eq_true_iff
  by_cases h : port = requested
  · have hc : (observed requested port).conflict = false :=
      decide_eq_false (not_not_intro h)
    have hw : (observed requested port).warning? = none := by
      rw [warning?, if_neg nofun, hc]
      rfl
    refine ⟨rfl, rfl, hi, ?_, ?_⟩
    · rw [hw, hc]
      exact Iff.rfl
    · intro w hs
      exact nomatch hw.symm.trans hs
  · obtain ⟨before, between, after, hw⟩ := warning?_observed h
    refine ⟨rfl, rfl, hi, ?_, ?_⟩
    · rw [hw, hi.mpr h]
      exact Iff.rfl
    · intro w hs
      exact ⟨before, between, after, Option.some.inj (hs.symm.trans hw)⟩

theorem fallsBack_undetermined (requested : Int) :
    (undetermined requested).FallsBack requested :=
  ⟨rfl, rfl, rfl, rfl⟩

end PortChoice

namespace Machine

open PortChoice (tolerated)

/-- The engine can be asked, and the port is the first that a mapping for port
80 gives. -/
def Tells (m : Machine) (container : String) (port : Int) : Prop :=
  m.Reachable ∧
  HasFirst (HostPort.IsFirst HostPort.Gives HostPort.IsSilent)
  m.engine container port

theorem tolerated_portFailure (container : String) {e : Failure}
    (h : e.IsOfEngine) :
    tolerated (portFailure container e) = true := by
  obtain ⟨error, message, rfl⟩ := h
  rfl

theorem tolerated_refusal (container : String) {e : Failure}
    (h : e.IsOfEngine) :
    tolerated (portFailure container (refusal e)) = true := by
  obtain ⟨error, message, rfl⟩ := h
  rw [refusal]
  cases error.isEngine <;> rfl

section Choice

variable (m : Machine) (container : String)
  (hc : ∀ e, m.engine.connectFailure = some e → e.IsOfEngine)
  (hi : ∀ e, portsOf m.engine container = .error e → e.IsOfEngine)
  (ht : ∀ ports mappings, portsOf m.engine container = .ok ports →
    ports.get? "80/tcp" = some mappings →
    ∀ mapping ∈ mappings, HostPort.IsTextual mapping)

include hc hi ht in
/-- Reading a port comes to the port that is told, or to a failure that is
tolerated. -/
theorem outcome_ingressPort :
    (∃ port, Tells m container port ∧
      ((ingressPort container).run m).outcome = .ok port) ∨
      (∀ port, ¬Tells m container port) ∧
        ∃ e, ((ingressPort container).run m).outcome = .error e ∧
          tolerated e = true := by
  rw [run_ingressPort]
  cases hr : m.reach with
  | error e =>
    obtain ⟨hn, -, f, hf, rfl⟩ := of_reach_error hr
    refine .inr ⟨fun port h => hn h.1, _, rfl, ?_⟩
    exact tolerated_refusal container (hc f hf)
  | ok u =>
    have hm : m.Reachable := reach_eq_ok_iff.mp hr
    cases hp : portsOf m.engine container with
    | error e =>
      refine .inr ⟨?_, _, rfl, tolerated_portFailure container (hi e hp)⟩
      rintro port ⟨-, ports, mappings, h, -⟩
      cases hp.symm.trans h
    | ok ports =>
      show (∃ port, _ ∧ portAmong container ports = .ok port) ∨
        _ ∧ ∃ e, portAmong container ports = .error e ∧ _
      rw [portAmong, Cluster.Manifest.containerPortName]
      cases hg : ports.get? "80/tcp" with
      | none =>
        refine .inr ⟨?_, _, rfl, rfl⟩
        rintro port ⟨-, ports', mappings, h, hg', -⟩
        obtain rfl := Except.ok.inj (hp.symm.trans h)
        cases hg.symm.trans hg'
      | some mappings =>
        rcases HostPort.first_of_textual (ht ports mappings hp hg)
          with ⟨port, hf, hs⟩ | ⟨hf, hs⟩
        · refine .inl ⟨port, ⟨hm, ports, mappings, hp, hg, hs⟩, ?_⟩
          rw [Option.getD_some, hf]
          rfl
        · rw [Option.getD_some, hf]
          refine .inr ⟨?_, _, rfl, rfl⟩
          rintro port ⟨-, ports', mappings', h, hg', hfirst⟩
          obtain rfl := Except.ok.inj (hp.symm.trans h)
          obtain rfl := Option.some.inj (hg.symm.trans hg')
          obtain ⟨mapping, hm', hgives⟩ := hfirst.exists_mem
          exact hs mapping hm' port hgives

include hc hi ht in
/-- A port is always chosen: the first that the engine tells as the text of a
usable one, or, when none is told for whatever reason, the one asked for. -/
theorem choose_ingressPort (requested : Int) :
    ∃ choice,
      ((PortChoice.choose ingressPort container requested).run m).outcome =
        .ok choice ∧
      ((∃ port, Tells m container port ∧ choice.Follows requested port) ∨
        (∀ port, ¬Tells m container port) ∧ choice.FallsBack requested) := by
  have hs := PortChoice.silent_choose ingressPort container requested m
  simp only [Act.run_silent] at hs
  rcases outcome_ingressPort m container hc hi ht
    with ⟨port, htold, ho⟩ | ⟨hn, e, ho, he⟩
  · rw [ho] at hs
    exact ⟨_, congrArg Report.outcome hs,
      .inl ⟨port, htold, PortChoice.follows_observed _ _⟩⟩
  · rw [ho] at hs
    have h := congrArg Report.outcome hs
    dsimp only at h
    rw [if_pos he] at h
    exact ⟨_, h, .inr ⟨hn, PortChoice.fallsBack_undetermined requested⟩⟩

end Choice

/-- A machine whose engine reports a mapping without a port, one with a port
that is no number, and one with a port that is. -/
def reporting : Machine where
  tree := .empty []
  engine := {
    containers :=
      [("node",
      .ok [("80/tcp", [[("HostIp", .text "")], [("HostPort", .text "http")],
      [("HostPort", .text " 9000 ")]])])] }

/-- Asked for 8000, the choice on this machine is 9000. -/
theorem choose_ingressPort_reporting :
    (∃ choice,
      ((PortChoice.choose ingressPort "node" 8000).run reporting).outcome =
        .ok choice ∧
      ((∃ port, Tells reporting "node" port ∧ choice.Follows 8000 port) ∨
        (∀ port, ¬Tells reporting "node" port) ∧ choice.FallsBack 8000)) ∧
      Tells reporting "node" 9000 := by
  constructor
  · refine choose_ingressPort reporting "node" nofun nofun ?_ 8000
    intro ports mappings hp hg
    obtain rfl := Except.ok.inj hp
    obtain rfl := Option.some.inj hg
    intro mapping hm d hd
    simp only [List.mem_cons, List.not_mem_nil, or_false] at hm
    rcases hm with rfl | rfl | rfl
    · exact nomatch hd
    · exact ⟨_, (Option.some.inj hd).symm⟩
    · exact ⟨_, (Option.some.inj hd).symm⟩
  · refine ⟨.inr rfl, _, _, rfl, rfl,
      [[("HostIp", .text "")], [("HostPort", .text "http")]],
      [("HostPort", .text " 9000 ")], [], rfl,
      ⟨" 9000 ", rfl,
        Text.readInteger?_eq_some_iff.mp (by decide +kernel), by decide⟩, ?_⟩
    rintro m hm p ⟨text, ht, hn, -⟩
    simp only [List.mem_cons, List.not_mem_nil, or_false] at hm
    rcases hm with rfl | rfl
    · exact nomatch ht
    · obtain rfl := Datum.text.inj (Option.some.inj ht)
      have hr : Text.readInteger? "http" = some p :=
        Text.readInteger?_eq_some_iff.mpr hn
      exact nomatch
        (show Text.readInteger? "http" = none by decide +kernel).symm.trans hr

end Machine

end SingleNode
