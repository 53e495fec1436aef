/-
# Failures

Everything that can stop an action: a fault of the workflow, an error of the
container engine, a problem with a path, bytes that are not text, settings that
do not hold, or an error of no particular part. The text of a failure is what
the user reads; its literal is what telemetry records.
-/
import SingleNode.Failure.Fault
import SingleNode.Settings.Complaint
import SingleNode.Text.Utf8

namespace SingleNode

/-- What an action ends with when it does not return. A plain error may have
been raised without a message. -/
inductive Failure
  | fault (f : Fault)
  | engine (error : EngineError) (message : String)
  | file (problem : FileProblem) (path : String)
  | undecodable (bytes : List UInt8) (damage : Text.Utf8Damage)
  | settings (invalid : Settings.Invalid)
  | plain (error : PlainError) (message : Option String)

namespace Failure

def name : Failure → String
  | .fault f => f.kind.name
  | .engine e _ => e.name
  | .file p _ => p.name
  | .undecodable .. => "UnicodeDecodeError"
  | .settings _ => Cause.settings.name
  | .plain e _ => e.name

/-- What is said about a damaged place: a single byte is shown, of several only
where they stand. -/
def undecodableText (bytes : List UInt8) (d : Text.Utf8Damage) : String :=
  let place :=
    match (bytes.drop d.first).take (d.stop - d.first) with
    | [b] =>
      "byte 0x" ++ String.ofList (Text.hexLower 2 b.toNat) ++ " in position " ++
        toString d.first
    | _ =>
      "bytes in position " ++ toString d.first ++ "-" ++ toString (d.stop - 1)
  "'utf-8' codec can't decode " ++ place ++ ": " ++ d.problem.reason

/-- The text of a failure. An error about a key quotes the key. -/
def message : Failure → String
  | .fault f => f.message
  | .engine _ m => m
  | .file p path =>
    "[Errno " ++ toString p.code ++ "] " ++ p.reason ++ ": " ++ Text.quoted path
  | .undecodable bytes d => undecodableText bytes d
  | .settings e => e.message
  | .plain .key (some key) => Text.quoted key
  | .plain _ m => m.getD ""

/-- The literal of a failure: its class, and in parentheses what it was raised
with. A fault does not show its stage. -/
def literal (e : Failure) : String :=
  match e with
  | .fault f => e.name ++ "(" ++ Text.quoted f.detail ++ ")"
  | .engine _ m => e.name ++ "(" ++ Text.quoted m ++ ")"
  | .file p _ =>
    e.name ++ "(" ++ toString p.code ++ ", " ++ Text.quoted p.reason ++ ")"
  | .undecodable bytes d =>
    e.name ++ "('utf-8', " ++ Text.quotedBytes bytes ++ ", " ++
      toString d.first ++ ", " ++
      toString d.stop ++ ", " ++ Text.quoted d.problem.reason ++ ")"
  | .settings i => i.message
  | .plain _ m => e.name ++ "(" ++ (m.map Text.quoted).getD "" ++ ")"

/-- Holds for the failure that the user causes by interrupting. -/
def isInterrupt : Failure → Bool
  | .plain .interrupt _ => true
  | _ => false

/-- A fault of a class with its own stage and without a cause. -/
def ofFault (kind : FaultClass) (detail : String) : Failure :=
  .fault { kind, detail }

/-- A fault raised because of something else. -/
def because (kind : FaultClass) (detail : String) (cause : Cause) : Failure :=
  .fault { kind, detail, cause := some cause }

end Failure

end SingleNode
