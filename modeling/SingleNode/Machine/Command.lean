/-
# Running commands

A command is run once, under a deadline. If it does not succeed that becomes a
fault: one of the class that the caller names, or a cancellation with the stage
of that class if the deadline passed. Output of a command that succeeds must be
text.
-/
import SingleNode.Machine.Basic

namespace SingleNode.Machine

/-- A command to be run. `config` is the text of a configuration file that one
of the words names. -/
structure Command where
  program : String
  args : List String
  timeout : Int
  input : Option String := none
  config : Option String := none
  deriving DecidableEq, Repr

namespace Command

/-- The program and its arguments. -/
def words (c : Command) : List String := c.program :: c.args

/-- The command as messages quote it: the program and its first two
arguments. -/
def title (c : Command) : String :=
  "'" ++ c.program ++ " " ++ String.intercalate " " (c.args.take 2) ++ "'"

end Command

/-- How a command ended that did not succeed. The status of a process that was
killed is the number of the signal, with a minus sign. -/
inductive Ending
  | missing
  | expired
  | status (n : Int) (stdout stderr : Output)
  deriving DecidableEq, Repr

namespace Ending

/-- What there is to say about a process that ended with a status: its error
output, or its output if that is empty, or the status if there is nothing but
blanks. -/
def diagnostic (n : Int) (stdout stderr : Output) : String :=
  let text := Text.trim (stderr.orElse stdout).repaired
  if text = "" then "exit code " ++ toString n else text

/-- The failure of a command that ended like this, for a caller that names a
class of fault. -/
def failure (c : Command) (kind : FaultClass) : Ending → Failure
  | .missing =>
    .because kind
      ("Required command '" ++ c.program ++
        "' not found. Please install it first.") .commandMissing
  | .expired =>
    .fault {
      kind := .cancelled
      detail :=
        c.title ++ " did not finish within " ++ toString c.timeout ++ "s"
      stage := kind.stage
      cause := some .deadline }
  | .status n stdout stderr =>
    .because kind (c.title ++ " failed: " ++ diagnostic n stdout stderr)
      (.exitStatus n)

end Ending

/-- Starts a process on the machine and waits for it. -/
def execute (c : Command) : Act Machine (Except Ending String) := do
  let m ← Act.get
  if m.missing.contains c.program then
    Act.emit (.missingCommand c.program)
    return .error .missing
  Act.emit (.run c.words c.timeout c.input c.config)
  let (reply, rules) := Rule.answer c.words m.rules
  Act.modify fun m => { m with rules := rules }
  match reply with
  | .succeeds stdout => .ok <$> Act.ofExcept stdout.read
  | .exits n stdout stderr => return .error (.status n stdout stderr)
  | .killed signal stdout stderr =>
    return .error (.status (-signal) stdout stderr)
  | .vanishes => return .error .missing
  | .expires => return .error .expired
  | .interrupted => Act.fail (.plain .interrupt none)

/-- Runs a command and returns what it wrote, for a given way of starting
processes. -/
def commandBy {σ : Type} (start : Command → Act σ (Except Ending String))
    (kind : FaultClass) (c : Command) : Act σ String := do
  Act.debug ("running: " ++ c.program ++ " " ++ String.intercalate " " c.args)
  match ← start c with
  | .ok stdout => return stdout
  | .error ending => Act.fail (ending.failure c kind)

def command (kind : FaultClass) (c : Command) : Act Machine String :=
  commandBy execute kind c

end SingleNode.Machine
