/-
# Looking for a cluster

The answer to the query for clusters is a text, and a text lists names in one
way only: one to a line, with any blanks and empty lines around them (`Lists`,
`existsUnique_lists`).  A handle comes from such an answer and from nothing
else, and it says that the cluster is there exactly if its name is one of those
listed (`Decodes.answered`).  A query that fails is a fault of the stage of the
look-up.

So absence is only ever read off a listing.  Provisioning goes on to create a
cluster after a listing without its name, and after nothing else; with a query
that failed the look-up is its last call, and the outcome is aborted by the
fault of that (`lookup_decodes`).
-/
import SingleNode.Proofs.Cluster.Creation
import SingleNode.Proofs.Pipeline.Validation
import SingleNode.Proofs.Provisioning.Transcript
import SingleNode.Proofs.Text.Lines

namespace SingleNode

namespace Machine

/-- The command fails: there is no such program, or none when it is to be
started, or it does not end in time, or it ends with a status that is not 0, or
by a signal. -/
inductive Fails : Option Reply → Prop
  | missing : Fails none
  | expired : Fails (some .expires)
  | exited (status : Nat) (stdout stderr : Output) :
      Fails (some (.exits status stdout stderr))
  | killed (signal : Nat) (stdout stderr : Output) :
      Fails (some (.killed signal stdout stderr))
  | vanished : Fails (some .vanishes)

theorem Ends.fault_of_fails {kind : FaultClass} {reply? : Option Reply}
    {answer : Except Failure String} (h : Ends kind reply? answer)
    (hf : Fails reply?) :
    ∃ f, answer = .error (.fault f) ∧ f.stage = kind.stage := by
  cases h with
  | returned => cases hf
  | unreadable => cases hf
  | interrupted => cases hf
  | faulted _ hs => exact ⟨_, rfl, hs⟩

theorem Ends.answer_eq_ok_iff {kind : FaultClass} {reply? : Option Reply}
    {answer : Except Failure String} (h : Ends kind reply? answer)
    (text : String) :
    answer = .ok text ↔ ∃ stdout, reply? = some (.succeeds stdout) ∧
      stdout.read = .ok text := by
  constructor
  · rintro rfl
    cases h with
    | returned hr => exact ⟨_, rfl, hr⟩
  · rintro ⟨stdout, rfl, hr⟩
    cases h with
    | returned hr' => exact hr'.symm.trans hr
    | unreadable hr' => exact nomatch hr'.symm.trans hr
    | faulted hn => exact absurd rfl (hn stdout)

end Machine

namespace Cluster

/-! ## Listings -/

/-- The text lists the names, one to a line. -/
def Lists (names : List String) (text : String) : Prop :=
  Text.WritesLines (names.map String.toList) text.toList

theorem trim_comp_ofList :
    Text.trim ∘ String.ofList = String.ofList ∘ Text.trimList Text.isBlank := by
  funext line
  rw [Function.comp_apply, Text.trim, String.toList_ofList, Function.comp_apply]

theorem ne_empty_comp_ofList : (fun s => s != "") ∘ String.ofList = fun line =>
    !line.isEmpty := by
  funext line
  rw [Function.comp_apply]
  cases line with
  | nil => rfl
  | cons c rest =>
    rw [List.isEmpty_cons, Bool.not_false, bne_iff_ne]
    intro h
    exact List.cons_ne_nil c rest (String.ofList_injective h)

theorem listedNames_eq (text : String) :
    listedNames text = (Text.trimmedLines text.toList).map String.ofList := by
  rw [listedNames, Text.lines, List.map_map, trim_comp_ofList, ← List.map_map,
    List.filter_map, ne_empty_comp_ofList, ← Text.trimmedLines]

/-- The names that are read from a listing are those that it lists. -/
theorem listedNames_eq_iff {names : List String} {text : String} :
    listedNames text = names ↔ Lists names text := by
  rw [Lists, ← Text.trimmedLines_eq_iff, listedNames_eq]
  constructor
  · rintro rfl
    simp only [List.map_map, Function.comp_def, String.toList_ofList,
      List.map_id']
  · intro h
    simp only [h, List.map_map, Function.comp_def, String.ofList_toList,
      List.map_id']

/-- Whatever the text is, it lists names, and in one way only. -/
theorem existsUnique_lists (text : String) : ∃! names, Lists names text :=
  ⟨listedNames text, listedNames_eq_iff.mp rfl, fun _ h =>
    (listedNames_eq_iff.mpr h).symm⟩

/-- The name has no blanks. -/
def IsPlainName (name : String) : Prop :=
  name ≠ "" ∧ ∀ c ∈ name.toList, Text.isBlank c = false

theorem IsPlainName.isWord {name : String} (h : IsPlainName name) :
    Text.IsWord name.toList :=
  Text.isWord_of_not_blank (fun hnil => h.1 (String.toList_eq_nil_iff.mp hnil))
    h.2

theorem Lists.cons {name lead space rest : String} {names : List String}
    (hn : IsPlainName name) (hl : ∀ c ∈ lead.toList, Text.isBlank c = true)
    (hs : ∀ c ∈ space.toList, Text.isBlank c = true)
    (he : ∃ c ∈ space.toList, Text.isLineEnd c = true) (h : Lists names rest) :
    Lists (name :: names) (lead ++ name ++ space ++ rest) := by
  rw [Lists, List.map_cons]
  simp only [String.toList_append, List.append_assoc]
  exact .more hl hn.isWord hs he h

theorem lists_join {names : List String}
    (h : ∀ name ∈ names, IsPlainName name) :
    Lists names (String.join (names.map (· ++ "\n"))) := by
  induction names with
  | nil => exact .blank nofun
  | cons name rest ih =>
    obtain ⟨hname, hrest⟩ := List.forall_mem_cons.mp h
    have hfeed : "\n".toList = ['\n'] := rfl
    have hblank : ∀ c ∈ "\n".toList, Text.isBlank c = true := by
      intro c hc
      rw [hfeed] at hc
      obtain rfl := List.mem_singleton.mp hc
      rfl
    have hend : ∃ c ∈ "\n".toList, Text.isLineEnd c = true := by
      rw [hfeed]
      exact ⟨'\n', List.mem_singleton_self _, rfl⟩
    rw [List.map_cons, String.join_cons, ← String.empty_append (s := name)]
    exact .cons hname nofun hblank hend (ih hrest)

/-- Names are taken as a whole, and the last line may lack its end. -/
example : Lists ["kind", "airbyte-abctl-2", "airbyte-abctl"]
    "\n kind\r\nairbyte-abctl-2\u2028\n\tairbyte-abctl" :=
  listedNames_eq_iff.mp (by cbv)

/-! ## Looking -/

section Looking

variable (cfg : Config) (provider : Provider) (m : Machine)

def queryReply? : Option Reply := m.shell.reply? (lookupCommand cfg)

/-- The query succeeds with a text, which lists the names. -/
def Listed (names : List String) : Prop :=
  ∃ stdout text, queryReply? cfg m = some (.succeeds stdout) ∧
    stdout.read = .ok text ∧ Lists names text

/-- How a look-up ends. -/
structure Decodes (r : Except Failure Handle) : Prop where
  answered : ∀ handle, r = .ok handle ↔ ∃ names, Listed cfg m names ∧
    handle.name = provider.clusterName ∧
    handle.provider = provider ∧
    (handle.found = true ↔ provider.clusterName ∈ names)
  failed : Machine.Fails (queryReply? cfg m) → ∃ f, r = .error (.fault f) ∧
    f.stage = "cluster lookup"

variable {cfg m} in
theorem listed_iff {names : List String} : Listed cfg m names ↔
    ∃ text, m.answer .indeterminateState (lookupCommand cfg) = .ok text ∧
      listedNames text = names := by
  have hends := Machine.ends_answer .indeterminateState m (lookupCommand cfg)
  constructor
  · rintro ⟨stdout, text, hreply, hread, hl⟩
    exact ⟨text, (hends.answer_eq_ok_iff text).mpr ⟨stdout, hreply, hread⟩,
      listedNames_eq_iff.mpr hl⟩
  · rintro ⟨text, htext, hl⟩
    obtain ⟨stdout, hreply, hread⟩ := (hends.answer_eq_ok_iff text).mp htext
    exact ⟨stdout, text, hreply, hread, listedNames_eq_iff.mp hl⟩

theorem outcome_lookup : ((lookup cfg provider).run m).outcome =
    (m.answer .indeterminateState (lookupCommand cfg)).map fun listing =>
      ⟨provider.clusterName,
        (listedNames listing).contains provider.clusterName, provider⟩ :=
  congrArg Report.outcome (run_silent_lookup cfg provider m)

theorem lookup_eq_ok_iff (handle : Handle) :
    ((lookup cfg provider).run m).outcome = .ok handle ↔
    ∃ names, Listed cfg m names ∧ handle.name = provider.clusterName ∧
      handle.provider = provider ∧
      (handle.found = true ↔ provider.clusterName ∈ names) := by
  rw [outcome_lookup]
  simp only [listed_iff]
  constructor
  · intro h
    cases ha : m.answer .indeterminateState (lookupCommand cfg) with
    | error e =>
      rw [ha] at h
      cases h
    | ok text =>
      rw [ha] at h
      obtain rfl := Except.ok.inj h
      exact ⟨_, ⟨text, rfl, rfl⟩, rfl, rfl, List.contains_iff_mem⟩
  · rintro ⟨_, ⟨text, ha, rfl⟩, hname, hprovider, hfound⟩
    obtain ⟨name, found, provider'⟩ := handle
    obtain rfl : name = _ := hname
    obtain rfl : provider' = _ := hprovider
    have hcontains :
        (listedNames text).contains provider'.clusterName = found :=
      Bool.eq_iff_iff.mpr (List.contains_iff_mem.trans hfound.symm)
    rw [ha, Except.map, hcontains]

theorem decodes_lookup :
    Decodes cfg provider m ((lookup cfg provider).run m).outcome where
  answered := lookup_eq_ok_iff cfg provider m
  failed hf := by
    obtain ⟨f, ha, hs⟩ :=
      (Machine.ends_answer .indeterminateState m
      (lookupCommand cfg)).fault_of_fails hf
    refine ⟨f, ?_, hs⟩
    rw [outcome_lookup, ha]
    rfl

end Looking

end Cluster

/-! ## Provisioning after a look-up -/

namespace Provisioning

variable {σ : Type} {c : Collaborators σ} {provider : Cluster.Provider}
  {port : Int} {specs : List String}
  {log : List Entry} {r : Except Failure Outcome} {s t : σ}

/-- The look-up is the first call.  It is also the last if it ends with a fault,
and a cluster is created only if it did not find one. -/
theorem Transcript.exists_lookup (h : Transcript provider port specs log r) :
    ∃ answer rest, log = .lookup provider answer :: rest ∧
      (∀ f, answer = .error (.fault f) → rest = [] ∧
        r = .ok (.aborted port f)) ∧
      ((∃ x ∈ rest, x.isCreate = true) → ∃ handle, answer = .ok handle ∧
        handle.found = false) := by
  have hnone : ¬∃ x ∈ ([] : List Entry), x.isCreate = true := by
    rintro ⟨x, hx, -⟩
    cases hx
  have hone (name : String) (a : Except Failure Int) :
      ¬∃ x ∈ [Entry.ingressPort name a], x.isCreate = true := by
    rintro ⟨x, hx, hc⟩
    obtain rfl := List.mem_singleton.mp hx
    cases hc
  cases h with
  | lookupFails e =>
    refine ⟨.error e, [], rfl, ?_, fun hc => absurd hc hnone⟩
    intro f he
    obtain rfl := Except.error.inj he
    exact ⟨rfl, rfl⟩
  | taken handle =>
    exact ⟨.ok handle, [], rfl, nofun, fun hc => absurd hc hnone⟩
  | observed handle | undetermined handle | introspectionFails handle =>
    exact ⟨.ok handle, [_], rfl, nofun, fun hc => absurd hc (hone _ _)⟩
  | malformed handle _ hf | portFails handle _ _ hf
  | createFails handle _ _ hf | created handle _ hf =>
    exact ⟨.ok handle, _, rfl, nofun, fun _ => ⟨handle, rfl, hf⟩⟩

end Provisioning

namespace Cluster

/-- What a look-up that is not mistaken means for provisioning, by the log of
its calls: there are no further calls after a query that failed, and a cluster
is created only after a listing without it. -/
structure NeverMistaken (cfg : Config) (provider : Provider) (m : Machine)
    (port : Int) (log : List Entry)
    (r : Except Failure Provisioning.Outcome) : Prop where
  stopped : Machine.Fails (queryReply? cfg m) →
    ∃ f, f.stage = "cluster lookup" ∧
      log = [.lookup provider (.error (.fault f))] ∧ r = .ok (.aborted port f)
  absent : (∃ x ∈ log, x.isCreate = true) → ∃ names, Listed cfg m names ∧
    provider.clusterName ∉ names

theorem neverMistaken_of_transcript {cfg : Config} {provider : Provider}
    {c : Collaborators Machine} {port : Int} {specs : List String}
    {m m' : Machine} {log : List Entry}
    {r : Except Failure Provisioning.Outcome} (hl : c.lookup = lookup cfg)
    (hc : Called c m log m')
    (ht : Provisioning.Transcript provider port specs log r) :
    NeverMistaken cfg provider m port log r := by
  obtain ⟨answer, rest, rfl, hfault, hcreate⟩ := ht.exists_lookup
  have hanswer : ((lookup cfg provider).run m).outcome = answer := by
    rw [← hl]
    cases hc with
    | cons hcall => exact hcall.2
  have hd := decodes_lookup cfg provider m
  refine ⟨?_, ?_⟩
  · intro hf
    obtain ⟨f, hr, hs⟩ := hd.failed hf
    obtain rfl := hanswer.symm.trans hr
    obtain ⟨rfl, rfl⟩ := hfault f rfl
    exact ⟨f, hs, rfl, rfl⟩
  · rintro ⟨x, hx, hxc⟩
    rcases List.mem_cons.mp hx with rfl | hx
    · cases hxc
    · obtain ⟨handle, rfl, hfound⟩ := hcreate ⟨x, hx, hxc⟩
      obtain ⟨names, hlisted, -, -, hiff⟩ := (hd.answered handle).mp hanswer
      refine ⟨names, hlisted, fun hmem => ?_⟩
      exact Bool.false_ne_true (hfound.symm.trans (hiff.mpr hmem))

/-- A look-up tells what the listing says, and a query that fails is not taken
for an answer, neither by the look-up nor by provisioning, whatever the other
collaborators do. -/
theorem lookup_decodes (cfg : Config) (provider : Provider)
    (others : Collaborators Machine) (port : Int) (specs : List String)
    (s : Logged Machine) :
    let c : Collaborators Machine := { others with lookup := lookup cfg }
    let q := (Provisioning.run c.logged provider port specs).run s
    Decodes cfg provider s.world ((lookup cfg provider).run s.world).outcome ∧
      (Provisioning.run c provider port specs).run s.world =
        q.through Logged.world ∧
      ∃ log, q.state.log = s.log ++ log ∧ Called c s.world log q.state.world ∧
        NeverMistaken cfg provider s.world port log q.outcome := by
  intro c q
  refine ⟨decodes_lookup cfg provider s.world, ?_, ?_⟩
  · exact Provisioning.seen_run provider port specs c.logged_seenAs s
  · obtain ⟨log, hlog, hcalled, ht⟩ :=
      Provisioning.exists_transcript c provider port specs s
    exact ⟨log, hlog, hcalled, neverMistaken_of_transcript rfl hcalled ht⟩

end Cluster

end SingleNode
