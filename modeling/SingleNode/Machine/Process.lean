/-
# Processes

How external commands behave on a machine: a list of rules, of which the first
one applies that is not used up and whose words begin the command. A command
without a rule succeeds without output.
-/
import SingleNode.Failure

namespace SingleNode

/-- What a process wrote: text, or bytes that may not be text. -/
inductive Output
  | text (s : String)
  | raw (bytes : List UInt8)
  deriving DecidableEq, Repr

namespace Output

/-- The output as text. Bytes that are not text are refused. -/
def read : Output → Except Failure String
  | .text s => .ok s
  | .raw bytes => (Text.readUtf8 bytes).mapError (.undecodable bytes)

/-- The output as text, with bytes that are not text replaced. -/
def repaired : Output → String
  | .text s => s
  | .raw bytes => Text.repairUtf8 bytes

def isEmpty : Output → Bool
  | .text s => s = ""
  | .raw bytes => bytes.isEmpty

/-- The first output unless it is empty, else the second. -/
def orElse (a b : Output) : Output := if a.isEmpty then b else a

end Output

/-- What happens when a command is run. A program vanishes if it is gone between
being found and being started. -/
inductive Reply
  | succeeds (stdout : Output)
  | exits (status : Nat) (stdout stderr : Output)
  | killed (signal : Nat) (stdout stderr : Output)
  | vanishes
  | expires
  | interrupted
  deriving DecidableEq, Repr

/-- A reply to the commands that begin with the given words. It is given at most
`times` times, if there is a limit. -/
structure Rule where
  words : List String
  times : Option Nat
  reply : Reply
  deriving DecidableEq, Repr

namespace Rule

def applies (r : Rule) (command : List String) : Bool :=
  r.words.isPrefixOf command && r.times != some 0

/-- The rule after it has been applied once more. -/
def use (r : Rule) : Rule := { r with times := r.times.map (· - 1) }

/-- The reply to a command, and the rules from then on. -/
def answer (command : List String) : List Rule → Reply × List Rule
  | [] => (.succeeds (.text ""), [])
  | r :: rest =>
    if r.applies command then (r.reply, r.use :: rest)
    else
      let (reply, rest) := answer command rest
      (reply, r :: rest)

end Rule

end SingleNode
