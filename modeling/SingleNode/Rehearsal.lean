/-
# Rehearsals

Collaborators that do nothing but record that they were called and answer from a
script. A cluster that was created is there from then on, with the port it was
created with unless the script says another.
-/
import SingleNode.Collaborators

namespace SingleNode

/-- What the collaborators of a rehearsal answer. A failure is raised after the
call was recorded. -/
structure Rehearsal where
  clusterExists : Bool := false
  port : Option Int := none
  version : EngineVersion := ⟨.text "27.0.3", .text "arm64", .text "linux"⟩
  lookupFailure : Option Failure := none
  createFailure : Option Failure := none
  versionFailure : Option Failure := none
  ingressPortFailure : Option Failure := none
  installFailure : Option Failure := none
  tryPortFailure : Option Failure := none

namespace Rehearsal

/-- Records a call and fails if the script says so. -/
def answer {α : Type} (call : Call) (failure : Rehearsal → Option Failure)
    (value : Rehearsal → α) : Act Rehearsal α := do
  Act.emit (.call call)
  let script ← Act.get
  match failure script with
  | some e => Act.fail e
  | none => return value script

/-- The script after a cluster has been created. -/
def afterCreate (port : Int) (r : Rehearsal) : Rehearsal :=
  { r with clusterExists := true, port := r.port <|> some port }

/-- The port of the script. A script without one cannot say which it is. -/
def readPort : Act Rehearsal Int := do
  match (← Act.get).port with
  | some n => return n
  | none => Act.fail (.plain .key (some "port"))

def collaborators : Collaborators Rehearsal where
  version := answer .version versionFailure version
  lookup provider :=
    answer (.lookup provider.clusterName) lookupFailure fun r =>
      ⟨provider.clusterName, r.clusterExists, provider⟩
  ingressPort container := do
    answer (.ingressPort container) ingressPortFailure fun _ => ()
    readPort
  tryPort port := answer (.tryPort port) tryPortFailure fun _ => ()
  create provider port mounts := do
    answer (.create provider.clusterName port mounts) createFailure fun _ => ()
    Act.modify (afterCreate port)
  install options := answer (.install options.record) installFailure fun _ => ()

end Rehearsal

end SingleNode
