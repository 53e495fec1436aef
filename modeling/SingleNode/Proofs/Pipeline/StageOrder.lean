/-
# The order of the stages

What can be said of the calls of any run, whatever the collaborators answer
(`InOrder`): they begin the list of the path that the look-up chose, each of
them but the last let the run go on, the installer is called last and only once
everything before it is settled, and the run ends as its last call did.

The log is one that the collaborators keep for themselves, and keeping it
changes nothing else (`Collaborators.logged_seenAs`).  The clock has a say in
the end only: a run whose duration cannot be told ends with that.
-/
import SingleNode.Proofs.Pipeline.CallLog
import SingleNode.Proofs.Pipeline.Seen

namespace SingleNode

theorem Collaborators.logged_seenAs {σ : Type} (c : Collaborators σ) :
    c.logged.SeenAs Logged.world c where
  version _ := rfl
  lookup _ _ := rfl
  ingressPort _ _ := rfl
  tryPort _ _ := rfl
  create _ _ _ _ := rfl
  install _ _ := rfl

namespace Pipeline

open Installation (Options Request)

/-- The calls of an installation into a cluster that is there. -/
def reuseCalls (provider : Cluster.Provider) (o : Options) : List Call :=
  [.version, .lookup provider.clusterName] ++
    (if provider.supportsIntrospection then [.ingressPort provider.controlPlane]
      else []) ++
    [.install o.record]

/-- The calls of an installation into a new cluster. -/
def createCalls (provider : Cluster.Provider) (port : Int) (mounts : List Mount)
    (o : Options) :
    List Call :=
  [.version, .lookup provider.clusterName, .tryPort port,
    .create provider.clusterName port mounts, .install o.record]

/-- The order of the calls in the log of a run that ended with the given
outcome.  `timed` is whether the duration of the run could be told. -/
structure InOrder (provider : Cluster.Provider) (env : Settings.Environment)
    (request : Request) (timed : Bool) (log : List Entry)
    (outcome : Except Failure Options) :
    Prop where
  /-- Into a cluster that was found: with the port that it was found to have. -/
  reuse : found? log = some true →
    log.map Entry.call <+: reuseCalls provider
      (optionsFor env request (toldPort request.port log))
  /-- Into a new cluster: with the port asked for and the mounts that were
  read. -/
  create : ∀ mounts, found? log = some false →
    Mount.parseAll request.volumes = .ok mounts →
    log.map Entry.call <+:
      createCalls provider request.port mounts
        (optionsFor env request request.port)
  /-- If the mounts cannot be read, or there is no report, nothing is called
  after the look-up. -/
  stopped : (found? log = none ∨
      found? log = some false ∧
      ∃ f, Mount.parseAll request.volumes = .error f) →
    log.map Entry.call <+: [.version, .lookup provider.clusterName]
  /-- Every call but the last one lets the run go on. -/
  goesOn : ∀ x ∈ log.dropLast, x.passes
  /-- Nothing is called after the installer. -/
  installLast : ∀ x ∈ log.dropLast, x.isInstall = false
  /-- The installer is called exactly if all stages before it were gone through
  and passed, the mounts of a new cluster were read, and the group of the
  credentials holds. -/
  installs : (∃ x ∈ log, x.isInstall = true) ↔
    (log.filter fun x => !x.isInstall).map Entry.call =
      stageCalls provider request (found? log) ∧
      (∀ x ∈ log, x.isInstall = false → x.passes) ∧
      (found? log = some false →
        ∃ mounts, Mount.parseAll request.volumes = .ok mounts) ∧
      (Registry.merged env request).isComplete = true
  /-- What is returned is what the installer was given. -/
  returned : ∀ o, outcome = .ok o ↔ log.getLast? = some (.install o (.ok ())) ∧
    timed = true
  /-- What is raised is what the last call raised, unless it comes from a check
  between the calls. -/
  raised : ∀ e, outcome = .error e →
    (∃ x, log.getLast? = some x ∧ x.failure? = some e ∧ x.isTolerated = false) ∨
    (found? log = some false ∧
      log.map Entry.call = [.version, .lookup provider.clusterName] ∧
      ∃ f, Mount.parseAll request.volumes = .error f ∧ e = .fault f) ∨
    (log.map Entry.call = stageCalls provider request (found? log) ∧
      (∀ x ∈ log, x.passes) ∧
      (Registry.merged env request).isComplete = false ∧
      e = .fault (Options.incompleteFault env request)) ∨
    (timed = false ∧ e = Telemetry.overflow)
  /-- A run whose duration cannot be told ends with that. -/
  untimed : timed = false → outcome = .error Telemetry.overflow

variable {provider : Cluster.Provider} {env : Settings.Environment}
  {request : Request}

/-! ## Which calls the stages make -/

theorem install_notMem_stageCalls (found : Option Bool) (options : Datum) :
    .install options ∉ stageCalls provider request found := by
  rcases found with _ | _ | _
  · simp [stageCalls, Provisioning.callsAfter]
  · cases h : Mount.parseAll request.volumes <;>
      simp [stageCalls, Provisioning.callsAfter, h]
  · by_cases h : provider.supportsIntrospection = true <;>
      simp [stageCalls, Provisioning.callsAfter, h]

theorem ingressPort_notMem_stageCalls (container : String) :
    .ingressPort container ∉ stageCalls provider request (some false) := by
  cases h : Mount.parseAll request.volumes <;>
    simp [stageCalls, Provisioning.callsAfter, h]

theorem stageCalls_reuse (o : Options) :
    stageCalls provider request (some true) ++ [.install o.record] =
      reuseCalls provider o := rfl

theorem stageCalls_create {mounts : List Mount}
    (h : Mount.parseAll request.volumes = .ok mounts) (o : Options) :
    stageCalls provider request (some false) ++ [.install o.record] =
      createCalls provider request.port mounts o := by
  simp [stageCalls, Provisioning.callsAfter, h, createCalls]

theorem stageCalls_stopped {found : Option Bool}
    (h : found = none ∨ found = some false ∧
      ∃ f, Mount.parseAll request.volumes = .error f) :
    stageCalls provider request found =
      [.version, .lookup provider.clusterName] := by
  rcases h with rfl | ⟨rfl, f, hm⟩
  · rfl
  · simp [stageCalls, Provisioning.callsAfter, hm]

/-! ## What the log of a run tells -/

section Log

variable {stages rest : List Entry} {r : Except Failure Options}

theorem call_mem_of_follows {found : Option Bool} {x : Entry}
    (hf : Follows Entry.call Entry.passes (stageCalls provider request found)
      stages) (hx : x ∈ stages) : x.call ∈ stageCalls provider request found :=
  hf.isPrefix.subset (List.mem_map_of_mem hx)

theorem isInstall_of_follows {found : Option Bool}
    (hf : Follows Entry.call Entry.passes
      (stageCalls provider request found) stages) :
    ∀ x ∈ stages, x.isInstall = false := by
  intro x hx
  have hc := call_mem_of_follows hf hx
  cases x with
  | install o a => exact absurd hc (install_notMem_stageCalls found o.record)
  | _ => rfl

theorem Account.found?_eq (ha : Account env request stages rest r) :
    found? (stages ++ rest) = found? stages := by
  cases ha <;> simp [found?_append]

theorem Account.toldPort_eq (ha : Account env request stages rest r) :
    toldPort request.port (stages ++ rest) = toldPort request.port stages := by
  cases ha <;> simp [toldPort_append]

theorem toldPort_of_create
    (hf : Follows Entry.call Entry.passes
      (stageCalls provider request (found? stages)) stages)
    (h : found? stages = some false) :
    toldPort request.port stages = request.port := by
  refine toldPort_eq fun x hx => ?_
  have hc := call_mem_of_follows hf hx
  rw [h] at hc
  cases x with
  | ingressPort container a =>
    exact absurd hc (ingressPort_notMem_stageCalls container)
  | _ => rfl

section Fields

variable
  (hf : Follows Entry.call Entry.passes
    (stageCalls provider request (found? stages)) stages)
  (ha : Account env request stages rest r)

include hf ha

theorem calls_isPrefix :
    (stages ++ rest).map Entry.call <+:
      stageCalls provider request (found? stages) ++
        [.install
          (optionsFor env request (toldPort request.port stages)).record] := by
  cases ha with
  | @called answer o hp _ _ _ ho =>
    rw [List.map_append, hf.map_eq hp, ho]
    exact List.prefix_rfl
  | _ =>
    rw [List.append_nil]
    exact hf.isPrefix.trans (List.prefix_append _ _)

theorem calls_stopped
    (h : found? stages = none ∨
      found? stages = some false ∧
      ∃ f, Mount.parseAll request.volumes = .error f) :
    (stages ++ rest).map Entry.call <+: [.version,
      .lookup provider.clusterName] := by
  have none_or (hn : (found? stages).isSome) (hs : found? stages = some false →
      ∃ mounts, Mount.parseAll request.volumes = .ok mounts) : False := by
    rcases h with h | ⟨h, f, hm⟩
    · simp [h] at hn
    · obtain ⟨mounts, hm'⟩ := hs h
      simp [hm] at hm'
  rw [← stageCalls_stopped h]
  cases ha with
  | called _ hn hs _ _ => exact (none_or hn hs).elim
  | _ => simpa using hf.isPrefix

theorem dropLast_passes : ∀ x ∈ (stages ++ rest).dropLast, x.passes := by
  cases ha with
  | called hp _ _ _ _ => simpa using hp
  | _ => simpa using hf.passes_of_mem_dropLast

theorem dropLast_isInstall :
    ∀ x ∈ (stages ++ rest).dropLast, x.isInstall = false := by
  cases ha with
  | called _ _ _ _ _ => simpa using isInstall_of_follows hf
  | _ =>
    intro x hx
    rw [List.append_nil] at hx
    exact isInstall_of_follows hf x ((List.dropLast_subset _) hx)

/-- The installer is called exactly if everything before it is settled. -/
theorem exists_isInstall_iff :
    (∃ x ∈ stages ++ rest, x.isInstall = true) ↔
      ((stages ++ rest).filter fun x => !x.isInstall).map Entry.call =
          stageCalls provider request (found? stages) ∧
        (∀ x ∈ stages ++ rest, x.isInstall = false → x.passes) ∧
        (found? stages = some false →
          ∃ mounts, Mount.parseAll request.volumes = .ok mounts) ∧
        (Registry.merged env request).isComplete = true := by
  have hi := isInstall_of_follows hf
  have hfilter : (stages.filter fun x => !x.isInstall) = stages :=
    List.filter_eq_self.mpr fun x hx => by rw [hi x hx, Bool.not_false]
  have none (h : ∃ x ∈ stages ++ [], x.isInstall = true) : False := by
    obtain ⟨x, hx, hx'⟩ := h
    rw [List.append_nil] at hx
    exact Bool.false_ne_true ((hi x hx).symm.trans hx')
  cases ha with
  | @failed x e hl he ht =>
    refine ⟨fun h => (none h).elim, fun ⟨_, hp, _⟩ => ?_⟩
    have hx : x ∈ stages := List.mem_of_getLast? hl
    exact absurd (hp x (List.mem_append_left _ hx) (hi x hx))
      (Entry.not_passes he ht)
  | @malformed f _ hn hm =>
    refine ⟨fun h => (none h).elim, fun ⟨_, _, hs, _⟩ => ?_⟩
    obtain ⟨mounts, hm'⟩ := hs hn
    simp [hm] at hm'
  | incomplete _ _ _ hc =>
    refine ⟨fun h => (none h).elim, fun ⟨_, _, _, hc'⟩ => ?_⟩
    simp [hc] at hc'
  | @called a o hp _ hs hc _ =>
    constructor
    · rintro -
      refine ⟨?_, ?_, hs, hc⟩
      · rw [List.filter_append, hfilter]
        simpa using hf.map_eq hp
      · intro x hx hxi
        rcases List.mem_append.mp hx with hx | hx
        · exact hp x hx
        · rw [List.mem_singleton.mp hx] at hxi
          simp at hxi
    · rintro -
      exact ⟨.install o a, by simp, rfl⟩

theorem eq_ok_iff (o : Options) :
    r = .ok o ↔ (stages ++ rest).getLast? = some (.install o (.ok ())) := by
  have none (h : (stages ++ []).getLast? = some (.install o (.ok ()))) :
      False := by
    rw [List.append_nil] at h
    have := isInstall_of_follows hf _ (List.mem_of_getLast? h)
    simp at this
  cases ha with
  | @called a o' _ _ _ _ _ =>
    cases a <;> simp [Except.map]
  | _ => exact ⟨nofun, fun h => (none h).elim⟩

theorem of_eq_error {e : Failure} (h : r = .error e) :
    (∃ x, (stages ++ rest).getLast? = some x ∧ x.failure? = some e ∧
      x.isTolerated = false) ∨
    (found? stages = some false ∧
      (stages ++ rest).map Entry.call =
        [.version, .lookup provider.clusterName] ∧
      ∃ f, Mount.parseAll request.volumes = .error f ∧ e = .fault f) ∨
    ((stages ++ rest).map Entry.call = stageCalls provider request
      (found? stages) ∧
      (∀ x ∈ stages ++ rest, x.passes) ∧
        (Registry.merged env request).isComplete = false ∧
      e = .fault (Options.incompleteFault env request)) := by
  cases ha with
  | @failed x e' hl he ht =>
    obtain rfl : e' = e := by simpa using h
    exact .inl ⟨x, by simpa using hl, he, ht⟩
  | @malformed f hp hn hm =>
    obtain rfl : Failure.fault f = e := by simpa using h
    refine .inr (.inl ⟨hn, ?_, f, hm, rfl⟩)
    rw [List.append_nil, hf.map_eq hp, stageCalls_stopped (.inr ⟨hn, f, hm⟩)]
  | incomplete hp _ _ hc =>
    obtain rfl : Failure.fault _ = e := by simpa using h
    refine .inr (.inr ⟨?_, by simpa using hp, hc, rfl⟩)
    rw [List.append_nil, hf.map_eq hp]
  | @called a o _ _ _ _ _ =>
    cases a with
    | error e' =>
      obtain rfl : e' = e := by simpa [Except.map] using h
      exact .inl ⟨.install o (.error e'), by simp, rfl, rfl⟩
    | ok _ => simp [Except.map] at h

end Fields

/-- What the log accounts for is in order, also if the duration cannot be
told. -/
theorem inOrder {timed : Bool} {outcome : Except Failure Options}
    (hf : Follows Entry.call Entry.passes
      (stageCalls provider request (found? stages)) stages)
    (ha : Account env request stages rest r)
    (ho : outcome = if timed then r else .error Telemetry.overflow) :
    InOrder provider env request timed (stages ++ rest) outcome where
  reuse h := by
    rw [ha.found?_eq] at h
    have := calls_isPrefix hf ha
    rwa [h, stageCalls_reuse, ← ha.toldPort_eq] at this
  create mounts h hm := by
    rw [ha.found?_eq] at h
    have := calls_isPrefix hf ha
    rwa [h, stageCalls_create hm, toldPort_of_create hf h] at this
  stopped h := by
    rw [ha.found?_eq] at h
    exact calls_stopped hf ha h
  goesOn := dropLast_passes hf ha
  installLast := dropLast_isInstall hf ha
  installs := by
    rw [ha.found?_eq]
    exact exists_isInstall_iff hf ha
  returned o := by
    rw [← eq_ok_iff hf ha, ho]
    cases timed <;> simp
  raised e he := by
    rw [ha.found?_eq]
    cases timed with
    | true =>
      rw [ho] at he
      rcases of_eq_error hf ha he with h | h | h
      · exact .inl h
      · exact .inr (.inl h)
      · exact .inr (.inr (.inl h))
    | false =>
      rw [ho] at he
      refine .inr (.inr (.inr ⟨rfl, ?_⟩))
      simpa using he.symm
  untimed ht := by
    rw [ho, ht]
    rfl

end Log

theorem exists_inOrder {σ : Type} (c : Collaborators σ)
    (provider : Cluster.Provider) (env : Settings.Environment)
    (request : Request) (s : Observed (Logged σ)) :
    let q := (run c.logged provider env request).run s
    ∃ log, q.state.world.log = s.world.log ++ log ∧
      InOrder provider env request (Telemetry.canTime s.clock)
        log q.outcome := by
  obtain ⟨r, hc, ho⟩ := run_course c.logged provider env request s
  obtain ⟨stages, rest, hlog, hf, ha⟩ := hc.account
  refine ⟨stages ++ rest, ?_, inOrder hf ha ho⟩
  rw [← List.append_assoc]
  exact hlog

/-- The calls of a run are in order, whatever the collaborators do.  The run
whose calls are logged is the run itself to all who do not look at the log. -/
theorem calls_inOrder {σ : Type} (c : Collaborators σ)
    (provider : Cluster.Provider) (env : Settings.Environment)
    (request : Request) (s : Observed (Logged σ)) :
    let q := (run c.logged provider env request).run s
    (run c provider env request).run (s.through Logged.world) =
      q.through (.through Logged.world) ∧
      ∃ log, q.state.world.log = s.world.log ++ log ∧
        InOrder provider env request (Telemetry.canTime s.clock)
          log q.outcome :=
  ⟨seen_run provider env request c.logged_seenAs s,
    exists_inOrder c provider env request s⟩

end Pipeline

end SingleNode
