/-
# Actions that do not tell secrets

One command of an installation has a secret among its arguments, and it is
announced in the log like any other (`Event.NamesSecret`).  Here are the actions
of a machine that have nothing to do with it: compared with themselves they are
alike, whatever is asked of the events of that one command (`Discreet`).

That an announcement is not of this command is seen from how it begins, and for
this it is enough to know the program and the first of the arguments
(`discreet_of_words`).
-/
import SingleNode.Proofs.Act.Alike
import SingleNode.Proofs.Act.Announcement
import SingleNode.Proofs.Machine.Ports
import SingleNode.Proofs.Machine.Shell

namespace SingleNode

namespace Machine

open Act (Alike)

namespace Command

theorem announcement_of_words {c : Command} {words rest : List String}
    (h : c.args = words ++ rest) :
    ∃ tail, c.announcement = "running: " ++ c.program ++ " " ++
      String.intercalate " " words ++ tail := by
  obtain ⟨tail, ht⟩ := exists_intercalate_append " " words rest
  refine ⟨tail, ?_⟩
  rw [announcement, h, ht, ← String.append_assoc]

/-- The command writes out no secret. -/
def Discreet (c : Command) : Prop :=
  ¬(Event.log .debug c.announcement).NamesSecret

theorem discreet_of_words {c : Command} (program : String) (words : List String)
    {rest : List String} (hc : c.program = program)
    (ha : c.args = words ++ rest) (h : ¬Event.secretLead.toList <+:
      ("running: " ++ program ++ " " ++ String.intercalate " " words).toList)
    (h' : ¬("running: " ++ program ++ " " ++
      String.intercalate " " words).toList <+:
      Event.secretLead.toList) : c.Discreet := by
  obtain ⟨tail, ht⟩ := announcement_of_words ha
  rw [Discreet, ht, hc]
  exact Event.not_namesSecret_of_lead h h' tail

end Command

/-- A property of machines that lasts, and a relation of events in which each
belongs to itself unless it names a secret. -/
structure Discreet (I : Machine → Prop) (E : Event → Event → Prop) : Prop where
  tree : ∀ m tree, I m → I { m with tree := tree }
  connected : ∀ m b, I m → I { m with connection.connected := b }
  after : ∀ m c, I m → I (m.after c)
  same : ∀ e : Event, ¬e.NamesSecret → E e e

namespace Discreet

variable {I : Machine → Prop} {E : Event → Event → Prop} (h : Discreet I E)
include h

theorem shown {e : Event} (he : e.showsAt .info = true) : E e e :=
  h.same e (Event.not_namesSecret_of_shows he)

theorem emit {e : Event} (he : e.showsAt .info = true) :
    Alike (Same I) E Eq (Act.emit e : Act Machine Unit) (Act.emit e) :=
  .emit (h.shown he)

/-! ## Files and ports -/

omit h in
theorem failIf (e : Option Failure) :
    Alike (Same I) E Eq (failIf e) (failIf e) := by
  cases e with
  | none => exact .pure rfl
  | some e => exact .fail e

omit h in
theorem isFile (p : HostPath) : Alike (Same I) E Eq (isFile p) (isFile p) := by
  refine .ite (.pure rfl) (.look fun m _ => ?_)
  cases m.tree.isFile p with
  | ok b => exact .pure rfl
  | error e => exact .fail _

theorem ensureDirectories (p : HostPath) :
    Alike (Same I) E Eq (ensureDirectories p) (ensureDirectories p) := by
  refine Alike.next (.ite (.fail _) (.pure rfl)) fun _ => .look fun m _ => ?_
  rcases m.tree.ensureDirectories p with ⟨tree, _ | ⟨e, place⟩⟩
  · exact Alike.next (.change fun m => h.tree m tree) fun _ => .pure rfl
  · exact Alike.next (.change fun m => h.tree m tree) fun _ => .fail _

theorem tryPort (port : Int) :
    Alike (Same I) E Eq (tryPort port) (tryPort port) := by
  rintro m _ ⟨rfl, hm⟩
  rw [run_tryPort]
  exact ⟨⟨rfl, hm⟩, .cons (h.shown rfl) .nil, .refl _⟩

/-! ## The container engine -/

theorem connect : Alike (Same I) E Eq connect connect := by
  refine .look fun m _ => .ite ((h.emit rfl).next fun _ => ?_) (.pure rfl)
  cases m.engine.connectFailure with
  | none => exact .change fun m => h.connected m true
  | some e =>
    cases e with
    | engine e message => exact .ite (.fail _) (.fail _)
    | _ => exact .fail _

theorem disconnect : Alike (Same I) E Eq disconnect disconnect :=
  .look fun _ _ =>
    .ite ((h.emit rfl).next fun _ => .change fun m => h.connected m false)
      (.pure rfl)

theorem version : Alike (Same I) E Eq version version := by
  refine .look fun m _ => Alike.next (.handle ?_ fun e => ?_) fun _ => .pure rfl
  · exact h.connect.next fun _ => (h.emit rfl).next fun _ => .ofExcept (.refl _)
  · cases e with
    | engine error message => exact .ite (.fail _) (.fail _)
    | _ => exact .fail _

theorem ingressPort (container : String) :
    Alike (Same I) E Eq (ingressPort container) (ingressPort container) := by
  refine .look fun m _ => Alike.next (.handle ?_ fun e => ?_) fun ports =>
    Alike.next (.ofExcept (.refl _)) fun port => ?_
  · exact h.connect.next fun _ => (h.emit rfl).next fun _ => .ofExcept (.refl _)
  · cases e with
    | fault f => exact .ite (.fail _) (.fail _)
    | _ => exact .fail _
  · cases port with
    | some p => exact .pure rfl
    | none => exact .fail _

theorem findVolume (volume : String) :
    Alike (Same I) E Eq (findVolume volume) (findVolume volume) := by
  refine .look fun m _ => .handle ?_ fun e => ?_
  · exact h.connect.next fun _ => (h.emit rfl).next fun _ =>
      (failIf _).next fun _ =>
      .ite (.fail _) (.pure rfl)
  · cases e with
    | engine error message => exact .ite (.fail _) (.fail _)
    | _ => exact .fail _

theorem extractVolume (volume : String) (dest : HostPath) :
    Alike (Same I) E Eq (extractVolume volume dest)
      (extractVolume volume dest) := by
  refine (h.findVolume volume).next fun _ =>
    (h.ensureDirectories dest).next fun _ =>
    (h.emit rfl).next fun _ => .look fun m _ => .handle ?_ fun _ => .fail _
  exact h.connect.next fun _ => (h.emit rfl).next fun _ => failIf _

/-! ## Commands -/

theorem command (kind : FaultClass) {c : Command} (hc : c.Discreet) :
    Alike (Same I) E Eq (command kind c) (command kind c) := by
  rintro m _ ⟨rfl, hm⟩
  have hd : E (m.attempt c) (m.attempt c) := by
    refine h.shown ?_
    rw [attempt]
    split <;> rfl
  rw [run_command]
  exact ⟨⟨rfl, h.after m c hm⟩, .cons (h.same _ hc) (.cons hd .nil), .refl _⟩

theorem lookup (cfg : Cluster.Config) (provider : Cluster.Provider) :
    Alike (Same I) E Eq (Cluster.lookup cfg provider)
      (Cluster.lookup cfg provider) := by
  have hc :
      Command.Discreet
        { program := "kind"
          args := ["get", "clusters"]
          timeout := cfg.commandTimeout } :=
    Command.discreet_of_words "kind" [] rfl rfl (by decide) (by decide)
  refine (h.command _ hc).next fun listing =>
    Alike.next (.emit (h.same _ ?_)) fun _ => .pure rfl
  exact Event.not_namesSecret_of_lead (by decide) (by decide) _

theorem create (cfg : Cluster.Config) (provider : Cluster.Provider) (port : Int)
    (mounts : List Mount) :
    Alike (Same I) E Eq (Cluster.create cfg provider port mounts)
      (Cluster.create cfg provider port mounts) := by
  have hc : (Cluster.createCommand cfg provider port mounts).Discreet :=
    Command.discreet_of_words "kind" [] rfl rfl (by decide) (by decide)
  have made {f : Failure → Act Machine Unit}
      (hf : ∀ e, Alike (Same I) E Eq (f e) (f e)) :
      Alike (Same I)
        E Eq (Act.handle (Machine.ensureDirectories cfg.dataDir) f >>= fun _ =>
          Machine.command .resourceCreation
            (Cluster.createCommand cfg provider port mounts) >>=
            fun _ => pure ())
        (Act.handle (Machine.ensureDirectories cfg.dataDir) f >>= fun _ =>
          Machine.command .resourceCreation
            (Cluster.createCommand cfg provider port mounts) >>=
            fun _ => pure ()) :=
    ((h.ensureDirectories _).handle hf).next fun _ =>
      (h.command _ hc).next fun _ => .pure rfl
  rw [Cluster.create]
  cases mounts.find? Mount.isIncomplete with
  | some m =>
    exact Alike.next (.fail _) fun _ =>
      made fun e => by cases e <;> exact .fail _
  | none => exact made fun e => by cases e <;> exact .fail _

end Discreet

end Machine

end SingleNode
