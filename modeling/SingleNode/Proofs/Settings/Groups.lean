/-
# The fields of the groups of settings

The settings of the cluster, those of the charts and the credentials each have
their fields, with what holds for them and their defaults.  Text must be text
and a path is written as text; a provider is the name of a backend; a timeout is
a whole number from 1 to 3600, however it is written (`Whole`).

The checks of the three groups gather the checks of these fields.  The
credentials are looked at once more as a group, which is of no concern to any
field (`Registry.agreeOn_load`).
-/
import SingleNode.Chart.Coordinates
import SingleNode.Cluster.Config
import SingleNode.Proofs.Settings.Fields
import SingleNode.Proofs.Text.StrictInteger
import SingleNode.Registry

namespace SingleNode

open Settings

namespace Settings

/-! ## What holds for a field -/

/-- The value is a whole number: itself, a truth value, a text that spells it,
or a real number without a fraction that fits in 64 bits. -/
inductive Whole : Datum → Int → Prop
  | integer (n : Int) : Whole (.integer n) n
  | no : Whole (.bool false) 0
  | yes : Whole (.bool true) 1
  | spelled {s : String} {n : Int} : Text.StrictNumeral s n → Whole (.text s) n
  | real {x : Binary64} {n : Int} :
      x.truncate? = some n → x.isWhole = true → n.natAbs < Nat.pow 2 63 →
      Whole (.real x) n

theorem readText_eq_ok_iff (d : Datum) (s : String) :
    readText d = .ok s ↔ d = .text s := by
  cases d with
  | text s' =>
    constructor
    · intro h
      rw [Except.ok.inj h]
    · intro h
      rw [Datum.text.inj h]
      rfl
  | _ => exact iff_of_false nofun nofun

theorem readPath_eq_ok_iff (d : Datum) (p : HostPath) :
    readPath d = .ok p ↔ ∃ s, d = .text s ∧ p = HostPath.ofString s := by
  cases d with
  | text s =>
    constructor
    · intro h
      exact ⟨s, rfl, (Except.ok.inj h).symm⟩
    · rintro ⟨s', hs, rfl⟩
      rw [Datum.text.inj hs]
      rfl
  | _ => exact iff_of_false nofun fun ⟨_, h, _⟩ => nomatch h

theorem readWhole_eq_ok_iff (d : Datum) (n : Int) :
    readWhole d = .ok n ↔ Whole d n := by
  constructor
  · intro h
    cases d with
    | integer m =>
      obtain rfl := Except.ok.inj h
      exact .integer m
    | bool b =>
      cases b with
      | false =>
        obtain rfl := Except.ok.inj h
        exact .no
      | true =>
        obtain rfl := Except.ok.inj h
        exact .yes
    | text s =>
      cases hs : Text.readStrictInteger s with
      | ok m =>
        rw [readWhole, hs] at h
        obtain rfl := Except.ok.inj h
        exact .spelled (Text.readStrictInteger_eq_ok_iff.mp hs)
      | error problem =>
        rw [readWhole, hs] at h
        cases problem <;> cases h
    | real x =>
      cases ht : x.truncate? with
      | none =>
        rw [readWhole, ht] at h
        cases h
      | some m =>
        simp only [readWhole, ht] at h
        split at h
        · cases h
        next hw =>
        split at h
        next hm =>
          obtain rfl := Except.ok.inj h
          exact .real ht (by simpa using hw) hm
        · cases h
    | _ => cases h
  · rintro (_ | _ | _ | hs | ⟨ht, hw, hn⟩)
    · rfl
    · rfl
    · rfl
    · rw [readWhole, Text.readStrictInteger_eq_ok_iff.mpr hs]
    · simp only [readWhole, ht, hw, Bool.not_true, Bool.false_eq_true, if_false]
      exact if_pos hn

theorem readBetween_eq_ok_iff (least most : Nat) (d : Datum) (n : Int) :
    readBetween least most d = .ok n ↔ Whole d n ∧ least ≤ n ∧ n ≤ most := by
  rw [← readWhole_eq_ok_iff, readBetween]
  cases readWhole d with
  | error reason => exact iff_of_false nofun nofun
  | ok m =>
    show (if m < least then _ else if (most : Int) < m then _ else _) = _ ↔ _
    split
    next hlow =>
      refine iff_of_false nofun ?_
      rintro ⟨⟨⟩, hle, -⟩
      omega
    next hlow =>
      split
      next hhigh =>
        refine iff_of_false nofun ?_
        rintro ⟨⟨⟩, -, hle⟩
        omega
      next hhigh =>
        constructor
        · intro h
          obtain rfl := Except.ok.inj h
          exact ⟨rfl, by omega, by omega⟩
        · exact And.left

end Settings

theorem Cluster.Backend.ofName?_eq_some_iff {s : String} {b : Cluster.Backend} :
    ofName? s = some b ↔ s = b.name := by
  have hne : Backend.test.name ≠ Backend.kind.name := by decide
  rw [ofName?]
  split
  next hk =>
    cases b with
    | kind => exact iff_of_true rfl hk
    | test => exact iff_of_false nofun fun ht => hne (ht.symm.trans hk)
  next hk =>
    split
    next ht =>
      cases b with
      | kind => exact iff_of_false nofun hk
      | test => exact iff_of_true rfl ht
    next ht =>
      cases b with
      | kind => exact iff_of_false nofun hk
      | test => exact iff_of_false nofun ht

theorem Cluster.readBackend_eq_ok_iff (d : Datum) (b : Cluster.Backend) :
    Cluster.readBackend d = .ok b ↔ d = .text b.name := by
  cases d with
  | text s =>
    have hread : Cluster.readBackend (.text s) = .ok b ↔
        Cluster.Backend.ofName? s = some b := by
      rw [Cluster.readBackend]
      cases Cluster.Backend.ofName? s with
      | none => exact iff_of_false nofun nofun
      | some b' =>
        exact ⟨fun h => congrArg some (Except.ok.inj h), fun h =>
          congrArg _ (Option.some.inj h)⟩
    rw [hread, Cluster.Backend.ofName?_eq_some_iff]
    exact ⟨congrArg Datum.text, Datum.text.inj⟩
  | _ => exact iff_of_false nofun nofun

/-! ## The fields -/

def Settings.textField {κ : Type} (name fallback : String) (get : κ → String) :
    FieldOf κ where
  name := name
  Holds d s := d = .text s
  read := readText
  read_eq_ok_iff := readText_eq_ok_iff
  fallback := fallback
  get := get

namespace Cluster.Config

/-- The provider is the name of a backend. -/
def backendField : FieldOf Config where
  name := "provider"
  Holds d b := d = .text b.name
  read := readBackend
  read_eq_ok_iff := readBackend_eq_ok_iff
  fallback := .kind
  get := backend

/-- The timeout is a whole number from 1 to 3600. -/
def timeoutField : FieldOf Config where
  name := "command_timeout"
  Holds d n := Whole d n ∧ 1 ≤ n ∧ n ≤ 3600
  read := readBetween 1 3600
  read_eq_ok_iff := readBetween_eq_ok_iff 1 3600
  fallback := 600
  get := commandTimeout

/-- The data directory is a path, which is normalised. -/
def dataDirField (home : String) : FieldOf Config where
  name := "data_dir"
  Holds d p := ∃ s, d = .text s ∧ p = HostPath.ofString s
  read := readPath
  read_eq_ok_iff := readPath_eq_ok_iff
  fallback := (HostPath.ofString home).append [".airbyte", "abctl", "data"]
  get := dataDir

def fields (home : String) : List (FieldOf Config) :=
  [textField "cluster_name" "airbyte-abctl" clusterName, backendField,
    textField "node_image" "kindest/node:v1.29.2" nodeImage, timeoutField,
      dataDirField home]

theorem gathers_check (args : Arguments) (env : Environment) :
    Gathers (fields env.home) (given? args env lead) (check args env) where
  complaints := by
    simp only [check, Checked.complaints_seq, Checked.complaints_map, fields,
      List.flatMap_cons, List.flatMap_nil, List.append_nil, List.append_assoc]
    rfl
  values k hk := by
    simp only [check, Checked.seq_eq_valid_iff, Checked.map_eq_valid_iff] at hk
    obtain ⟨_, dir,
      ⟨_, timeout, ⟨_, image, ⟨_, b, ⟨name, h1, rfl⟩, h2, rfl⟩, h3, rfl⟩, h4,
      rfl⟩, h5, rfl⟩ :=
      hk
    simp only [fields, List.forall_mem_cons]
    exact ⟨h1, h2, h3, h4, h5, nofun⟩
  explains := by
    refine .seq (.seq (.seq (.seq (.map ?_ _) ?_) ?_) ?_) ?_
    all_goals exact Reader.explains_field _ _ _ _

/-- A timeout that is loaded is within its bounds, and so is the default. -/
theorem bounded_of_load {args : Arguments} {env : Environment} {cfg : Config}
    (h : load args env = .ok cfg) :
    1 ≤ cfg.commandTimeout ∧ cfg.commandTimeout ≤ 3600 := by
  have hmem : timeoutField ∈ fields env.home := by simp [fields]
  have hvalid :=
    (gathers_check args env).values cfg (report_eq_ok_iff.mp h)
    timeoutField hmem
  have hdefault : (1 : Int) ≤ 600 ∧ (600 : Int) ≤ 3600 := by omega
  exact (FieldOf.checked_eq_valid_iff.mp hvalid).of_holds
    (P := fun n : Int => 1 ≤ n ∧ n ≤ 3600) hdefault
    fun _ _ hd => hd.2

end Cluster.Config

namespace Chart.Coordinates

def fields : List (FieldOf Coordinates) :=
  [textField "repo_name" "airbyte" repoName,
    textField "repo_url" "https://airbytehq.github.io/helm-charts" repoUrl,
    textField "chart" "airbyte/airbyte" chart,
    textField "release" "airbyte-abctl" release,
    textField "namespace" "airbyte-abctl" namespaceName,
    textField "nginx_repo_name" "ingress-nginx" nginxRepoName,
    textField "nginx_repo_url" "https://kubernetes.github.io/ingress-nginx"
      nginxRepoUrl,
    textField "nginx_chart" "ingress-nginx/ingress-nginx" nginxChart,
    textField "nginx_release" "ingress-nginx" nginxRelease,
    textField "nginx_namespace" "ingress-nginx" nginxNamespace]

theorem gathers_check (args : Arguments) (env : Environment) :
    Gathers fields (given? args env lead) (check args env) where
  complaints := by
    simp only [check, Checked.complaints_seq, Checked.complaints_map, fields,
      List.flatMap_cons, List.flatMap_nil, List.append_nil, List.append_assoc]
    rfl
  values k hk := by
    simp only [check, Checked.seq_eq_valid_iff, Checked.map_eq_valid_iff] at hk
    obtain ⟨_, v10,
      ⟨_, v9, ⟨_, v8,
      ⟨_, v7, ⟨_, v6, ⟨_, v5, ⟨_, v4, ⟨_, v3, ⟨_, v2, ⟨v1, h1, rfl⟩, h2, rfl⟩,
      h3, rfl⟩, h4, rfl⟩, h5, rfl⟩, h6, rfl⟩, h7, rfl⟩, h8, rfl⟩, h9, rfl⟩,
        h10, rfl⟩ := hk
    simp only [fields, List.forall_mem_cons]
    exact ⟨h1, h2, h3, h4, h5, h6, h7, h8, h9, h10, nofun⟩
  explains := by
    refine .seq
      (.seq
      (.seq
      (.seq (.seq (.seq (.seq (.seq (.seq (.map ?_ _) ?_) ?_) ?_) ?_) ?_) ?_)
      ?_) ?_) ?_
    all_goals exact Reader.explains_field _ _ _ _

end Chart.Coordinates

namespace Registry

def fields : List (FieldOf Registry) :=
  [textField "server" "https://index.docker.io/v1/" server,
    textField "username" "" username,
    textField "password" "" password, textField "email" "" email]

theorem gathers_check (args : Arguments) (env : Environment) :
    Gathers fields (given? args env) (check args env) where
  complaints := by
    simp only [check, Checked.complaints_seq, Checked.complaints_map, fields,
      List.flatMap_cons, List.flatMap_nil, List.append_nil, List.append_assoc]
    rfl
  values k hk := by
    simp only [check, Checked.seq_eq_valid_iff, Checked.map_eq_valid_iff] at hk
    obtain ⟨_, email,
      ⟨_, password, ⟨_, username, ⟨server, h1, rfl⟩, h2, rfl⟩, h3, rfl⟩,
      h4, rfl⟩ := hk
    simp only [fields, List.forall_mem_cons]
    exact ⟨h1, h2, h3, h4, nofun⟩
  explains := by
    refine .seq (.seq (.seq (.map ?_ _) ?_) ?_) ?_
    all_goals exact Reader.explains_field _ _ _ _

theorem load_cases (args : Arguments) (env : Environment) :
    load args env = (check args env).report "RegistryCredentials" ∨
      (∃ k, (check args env).report "RegistryCredentials" = .ok k) ∧
        ∃ e c, load args env = .error e ∧ e.complaints = [c] ∧
          c.field = none := by
  cases hr : (check args env).report "RegistryCredentials" with
  | error e =>
    refine .inl ?_
    rw [load, hr]
    rfl
  | ok k =>
    have hload : load args env = if k.isComplete then .ok k else .error {
        group := "RegistryCredentials"
        complaints :=
          [{ field := none
             reason := .incomplete k.missing
             input := givenRecord args env }] } := by
      rw [load, hr]
      rfl
    rw [hload]
    split
    · exact .inl rfl
    · exact .inr ⟨⟨k, rfl⟩, _, _, rfl, rfl, rfl⟩

theorem report_of_load {args : Arguments} {env : Environment} {k : Registry}
    (h : load args env = .ok k) :
    (check args env).report "RegistryCredentials" = .ok k := by
  rcases load_cases args env with hl | ⟨-, e, c, hl, -, -⟩
  · exact hl.symm.trans h
  · cases hl.symm.trans h

theorem complaintsAbout_load (name : String) (args : Arguments)
    (env : Environment) :
    complaintsAbout name (load args env) =
      complaintsAbout name ((check args env).report "RegistryCredentials") := by
  rcases load_cases args env with hl | ⟨⟨k, hk⟩, e, c, hl, hc, hf⟩
  · rw [hl]
  · rw [hl, hk]
    show e.complaints.filter _ = []
    rw [hc, List.filter_eq_nil_iff]
    intro c' hc'
    obtain rfl := List.mem_singleton.mp hc'
    rw [hf, decide_eq_true_eq]
    exact nofun

theorem agreeOn_load {f : FieldOf Registry} (hf : f ∈ fields)
    {args args' : Arguments} {env env' : Environment}
    (hc : given? args env f.name = given? args' env' f.name) :
    AgreeOn f (load args env) (load args' env') := by
  have hn : (fields.map FieldOf.name).Nodup := by
    show ["server", "username", "password", "email"].Nodup
    decide +kernel
  have hsame : AgreeOn f ((check args env).report "RegistryCredentials")
      ((check args' env').report "RegistryCredentials") :=
    (gathers_check args env).agreeOn (gathers_check args' env') hn hf hc
  refine ⟨fun k k' hk hk' =>
    hsame.value k k' (report_of_load hk) (report_of_load hk'), ?_⟩
  rw [complaintsAbout_load, complaintsAbout_load]
  exact hsame.complaints

end Registry

end SingleNode
