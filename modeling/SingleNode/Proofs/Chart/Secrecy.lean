/-
# The password among the commands of an installation

One command has the password of the registry among its arguments: the one that
writes out the secret with the credentials (`Target.secretCommand`).  Two
installations whose options differ in the password only are compared here.  If
the shell does not tell their two commands apart, they do the same but for what
these commands are: the one that is run, and the announcement of it in the log,
which names every argument (`Blurred`, `alike_install`).
-/
import SingleNode.Proofs.Machine.Discreet

namespace SingleNode

open Machine (Command)

/-! ## Commands that get the same answer -/

namespace Shell

/-- The shell does not tell two commands apart, whatever is run before. -/
def Indistinct (s : Shell) (c d : Command) : Prop :=
  ∀ before : List Command,
    (before.foldl after s).reply? c = (before.foldl after s).reply? d ∧
    (before.foldl after s).after c = (before.foldl after s).after d

theorem Indistinct.after {s : Shell} {c d : Command} (h : s.Indistinct c d)
    (b : Command) :
    (s.after b).Indistinct c d :=
  fun before => h (b :: before)

theorem words_answer (words : List String) (rules : List Rule) :
    (Rule.answer words rules).2.map Rule.words = rules.map Rule.words := by
  induction rules with
  | nil => rfl
  | cons r rest ih =>
    rw [Rule.answer]
    split
    · rfl
    · rw [List.map_cons, List.map_cons, ih]

theorem answer_congr {words words' : List String} {rules : List Rule}
    (h : ∀ r ∈ rules, r.words.isPrefixOf words = r.words.isPrefixOf words') :
    Rule.answer words rules = Rule.answer words' rules := by
  induction rules with
  | nil => rfl
  | cons r rest ih =>
    have hr : r.applies words = r.applies words' := by
      rw [Rule.applies, Rule.applies, h r List.mem_cons_self]
    rw [Rule.answer, Rule.answer, hr, ih fun x hx =>
      h x (List.mem_cons_of_mem _ hx)]

theorem words_after (s : Shell) (c : Command) :
    (s.after c).rules.map Rule.words = s.rules.map Rule.words := by
  rw [after]
  split
  · rfl
  · exact words_answer c.words s.rules

/-- No rule of the shell looks at the words in which the commands differ. -/
theorem indistinct_of_rules {s : Shell} {c d : Command}
    (hp : c.program = d.program)
    (h : ∀ w ∈ s.rules.map Rule.words,
      w.isPrefixOf c.words = w.isPrefixOf d.words) :
    s.Indistinct c d := by
  intro before
  induction before generalizing s with
  | nil =>
    have ha : Rule.answer c.words s.rules = Rule.answer d.words s.rules :=
      answer_congr fun r hr => h r.words (List.mem_map_of_mem hr)
    exact ⟨by rw [List.foldl_nil, reply?, reply?, hp, ha],
      by rw [List.foldl_nil, Shell.after, Shell.after, hp, ha]⟩
  | cons b before ih =>
    refine ih ?_
    rwa [words_after]

end Shell

namespace Machine

/-- Two commands that failures do not tell apart. -/
structure Twin (c d : Command) : Prop where
  program : c.program = d.program
  title : c.title = d.title
  timeout : c.timeout = d.timeout

theorem Twin.answer_heard {c d : Command} (h : Twin c d) (kind : FaultClass)
    (reply : Option Reply) :
    (Exchange.heard kind (c, reply)).answer =
      (Exchange.heard kind (d, reply)).answer := by
  obtain ⟨hp, ht, ho⟩ := h
  have failed (e : Ending) : e.failure c kind = e.failure d kind := by
    cases e <;> simp [Ending.failure, hp, ht, ho]
  cases reply with
  | none => exact congrArg Except.error (failed _)
  | some reply =>
    cases reply with
    | succeeds stdout => rfl
    | exits n stdout stderr => exact congrArg Except.error (failed _)
    | killed signal stdout stderr => exact congrArg Except.error (failed _)
    | vanishes => exact congrArg Except.error (failed _)
    | expires => exact congrArg Except.error (failed _)
    | interrupted => rfl

theorem after_eq_shell (m : Machine) (c : Command) :
    m.after c = { m with rules := (m.shell.after c).rules } := by
  by_cases hm : c.program ∈ m.missing <;> simp [after, Shell.after, shell, hm]

theorem Twin.indistinct {c d : Command} (h : Twin c d) {m : Machine}
    (hm : m.shell.Indistinct c d) (kind : FaultClass) :
    m.after c = m.after d ∧ m.answer kind c = m.answer kind d := by
  obtain ⟨hr, ha⟩ := hm []
  rw [List.foldl_nil] at hr ha
  refine ⟨?_, ?_⟩
  · rw [after_eq_shell, after_eq_shell, ha]
  · have hc : m.answer kind c = (m.exchange kind c).answer := rfl
    have hd : m.answer kind d = (m.exchange kind d).answer := rfl
    rw [hc, hd, exchange_eq_heard, exchange_eq_heard, hr, h.answer_heard]

end Machine

/-! ## The secret -/

def Registry.withPassword (r : Registry) (password : String) : Registry :=
  { r with password }

def Installation.Options.withPassword (o : Installation.Options)
    (password : String) :
    Installation.Options :=
  { o with registry := o.registry.withPassword password }

/-- An event of a run with one password, and the event of a run with another
password in its place.  They are the same, but for the command that writes out
the secret and its announcement. -/
inductive Blurred (p q : String) : Event → Event → Prop
  | same (e : Event) : ¬e.NamesSecret → Blurred p q e e
  | announced (t : Chart.Target) (r : Registry) :
      Blurred p q
        (.log .debug (t.secretCommand (r.withPassword p)).announcement)
        (.log .debug (t.secretCommand (r.withPassword q)).announcement)
  | ran (t : Chart.Target) (r : Registry) :
      Blurred p q (t.secretCommand (r.withPassword p)).ran
        (t.secretCommand (r.withPassword q)).ran

namespace Chart.Target

open Act (Alike)
open Machine (Discreet)

variable (t : Target)

/-- The announcement of the command names the password, between texts that do
not depend on it. -/
theorem announcement_secretCommand (r : Registry) :
    ∃ before after : String, ∀ p,
      (t.secretCommand (r.withPassword p)).announcement =
        Event.secretLead ++ before ++ p ++ after := by
  have hl :
      Event.secretLead = "running: " ++ "kubectl" ++ " " ++ "create" ++ " " ++
      "secret" := by decide
  refine ⟨" " ++ "docker-registry" ++ " " ++ pullSecret ++ " " ++ "-n" ++ " " ++
    t.chart.namespaceName ++
    " " ++ "--docker-server" ++ " " ++ r.server ++ " " ++ "--docker-username" ++
      " " ++ r.username ++
    " " ++ "--docker-password" ++ " ",
    " " ++ "--docker-email" ++ " " ++ r.email ++ " " ++ "--dry-run=client" ++
      " " ++ "-o" ++ " " ++
    "yaml" ++ " " ++ "--context" ++ " " ++ t.provider.context, ?_⟩
  intro p
  simp only [hl, Command.announcement, secretCommand, kubectl,
    Registry.withPassword, List.cons_append,
    List.nil_append, String.intercalate_cons_cons, String.intercalate_singleton,
      ← String.append_assoc]

theorem twin_secretCommand (r : Registry) (q : String) :
    Machine.Twin (t.secretCommand r) (t.secretCommand (r.withPassword q)) :=
  ⟨rfl, rfl, rfl⟩

theorem helm_discreet (args : List String) : (t.helm args).Discreet :=
  Command.discreet_of_words "helm" [] rfl rfl (by decide) (by decide)

theorem apply_discreet (args : List String) (input : Option String) :
    (t.kubectl ("apply" :: args) input).Discreet :=
  Command.discreet_of_words "kubectl" ["apply"] rfl rfl (by decide) (by decide)

theorem namespaceCommand_discreet : t.namespaceCommand.Discreet :=
  Command.discreet_of_words "kubectl" ["create", "namespace"]
    rfl rfl (by decide) (by decide)

/-- The shell does not tell the commands apart that write out the two
secrets. -/
def Indistinct (r : Registry) (q : String) (m : Machine) : Prop :=
  m.shell.Indistinct (t.secretCommand r) (t.secretCommand (r.withPassword q))

variable {t}

theorem discreet_blurred (r : Registry) (p q : String) :
    Discreet (t.Indistinct r q) (Blurred p q) where
  tree _ _ h := h
  connected _ _ h := h
  after m c h := by
    rw [Indistinct, Machine.shell_after]
    exact h.after c
  same := .same

/-- With the one password or the other, writing out the secret comes to the
same. -/
theorem alike_perform_secret (r : Registry) (q : String) :
    Alike (Same (t.Indistinct r q)) (Blurred r.password q)
      Eq (perform (t.secretCommand r))
      (perform (t.secretCommand (r.withPassword q))) := by
  rintro m _ ⟨rfl, hm⟩
  obtain ⟨ha, ho⟩ := (t.twin_secretCommand r q).indistinct hm .install
  have hk (p : String) : m.attempt (t.secretCommand (r.withPassword p)) =
      if m.missing.contains "kubectl" then .missingCommand "kubectl"
      else (t.secretCommand (r.withPassword p)).ran := rfl
  have hd :
      Blurred r.password q
      (m.attempt (t.secretCommand (r.withPassword r.password)))
      (m.attempt (t.secretCommand (r.withPassword q))) := by
    rw [hk, hk]
    split
    · exact .same _ (Event.not_namesSecret_of_shows rfl)
    · exact .ran t r
  rw [perform, perform, Machine.run_command, Machine.run_command, ← ha, ← ho]
  exact ⟨⟨rfl, (discreet_blurred r r.password q).after m _ hm⟩,
    .cons (.announced t r) (.cons hd .nil), .refl _⟩

section Steps

variable {I : Machine → Prop} {E : Event → Event → Prop} (h : Discreet I E)
include h

theorem alike_step {c : Command} (hc : c.Discreet) :
    Alike (Same I) E Eq (step c) (step c) :=
  (h.command _ hc).next fun _ => .pure rfl

omit h in
theorem alike_requireFiles (o : Installation.Options) :
    Alike (Same I) E Eq (requireFiles o) (requireFiles o) := by
  refine .forEach fun file _ => (Discreet.isFile _).next fun found => ?_
  exact .ite (.fail _) (.pure rfl)

theorem alike_migrate : Alike (Same I) E Eq t.migrate t.migrate :=
  (h.emit rfl).next fun _ => (h.extractVolume _ _).next fun _ => h.emit rfl

theorem alike_repoCommands :
    Alike (Same I) E Eq (Act.forEach t.repoCommands step)
      (Act.forEach t.repoCommands step) := by
  refine .forEach fun c hc => alike_step h ?_
  simp only [repoCommands, List.mem_cons, List.not_mem_nil, or_false] at hc
  rcases hc with rfl | rfl | rfl
  · exact t.helm_discreet _
  · exact t.helm_discreet _
  · exact t.helm_discreet _

theorem alike_provideNamespace :
    Alike (Same I) E Eq t.provideNamespace t.provideNamespace := by
  refine (alike_step h t.namespaceCommand_discreet).handle fun e =>
    .ite (.emit (h.same _ ?_)) (.fail e)
  rw [String.append_assoc]
  exact Event.not_namesSecret_of_lead (by decide) (by decide) _

theorem alike_applySecretFile (file : String) :
    Alike (Same I) E Eq (t.applySecretFile file) (t.applySecretFile file) :=
  (alike_step h (t.apply_discreet _ _)).next fun _ => h.emit rfl

theorem alike_releases (o : Installation.Options) (q : String) :
    Alike (Same I) E Eq (t.releases o) (t.releases (o.withPassword q)) := by
  have said (text : String) :
      Alike (Same I) E Eq (Act.print text : Act Machine Unit)
      (Act.print text) :=
    h.emit rfl
  have files : Alike (Same I) E Eq (Act.forEach o.secretFiles t.applySecretFile)
      (Act.forEach o.secretFiles t.applySecretFile) :=
    .forEach fun file _ => alike_applySecretFile h file
  have nginx :
      Alike (Same I) E Eq (step t.nginxCommand) (step t.nginxCommand) :=
    alike_step h (t.helm_discreet _)
  have platform :
      Alike (Same I) E Eq (step (t.platformCommand o))
      (step (t.platformCommand o)) :=
    alike_step h (t.helm_discreet _)
  have ingress :
      Alike (Same I) E Eq (step (t.ingressCommand o))
      (step (t.ingressCommand o)) :=
    alike_step h (t.apply_discreet _ _)
  have page :
      Alike (Same I)
      E Eq (if !o.noBrowser then Machine.browse o.url else pure ())
      (if !o.noBrowser then Machine.browse o.url else pure ()) :=
        .ite (h.emit rfl) (.pure rfl)
  exact files.next fun _ => (said _).next fun _ => nginx.next fun _ =>
    (said _).next fun _ =>
    (said _).next fun _ => platform.next fun _ => (said _).next fun _ =>
      ingress.next fun _ =>
      (said _).next fun _ => page

end Steps

/-- Storing the credentials shows the password in one announcement. -/
theorem alike_storeCredentials (r : Registry) (q : String) :
    Alike (Same (t.Indistinct r q)) (Blurred r.password q)
      Eq (t.storeCredentials r)
      (t.storeCredentials (r.withPassword q)) := by
  have h : Discreet (t.Indistinct r q) (Blurred r.password q) :=
    discreet_blurred r r.password q
  exact (alike_perform_secret r q).next fun manifest =>
    (alike_step h (t.apply_discreet _ _)).next fun _ => h.emit rfl

theorem alike_install (o : Installation.Options) (q : String) :
    Alike (Same (t.Indistinct o.registry q)) (Blurred o.registry.password q)
      Eq (t.install o)
      (t.install (o.withPassword q)) := by
  have h :
      Discreet (t.Indistinct o.registry q) (Blurred o.registry.password q) :=
    discreet_blurred o.registry _ q
  have stored :
      Alike (Same (t.Indistinct o.registry q))
      (Blurred o.registry.password q) Eq
      (t.storeIfGiven o) (t.storeIfGiven (o.withPassword q)) :=
    .ite (alike_storeCredentials o.registry q) (.pure rfl)
  have charts :
      Alike (Same (t.Indistinct o.registry q)) (Blurred o.registry.password q)
      Eq (t.charts o)
      (t.charts (o.withPassword q)) :=
    (h.emit rfl).next fun _ => (alike_repoCommands h).next fun _ =>
      (alike_provideNamespace h).next fun _ => stored.next fun _ =>
        alike_releases h o q
  rw [install_eq, install_eq]
  exact (alike_requireFiles o).next fun _ =>
    Alike.next (.ite (alike_migrate h) (.pure rfl)) fun _ => charts

end Chart.Target

end SingleNode
