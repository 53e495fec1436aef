/-
# Events

Everything about a run that can be seen from outside, one event each: what is
printed and logged, the commands that are run, the requests to the container
engine, the ports that are tried, and the calls of collaborators that only
record being called.
-/
import SingleNode.Failure
import SingleNode.Mount

namespace SingleNode

/-- How much a log record matters. -/
inductive LogLevel
  | debug
  | info
  deriving DecidableEq, Repr

/-- A directory or volume that a container sees. -/
structure Bind where
  target : String
  mode : String
  deriving DecidableEq, Repr

/-- Why a command line is refused. -/
inductive UsageError
  | noSuchOption
  | badOption
  | badValue
  | misuse
  | noArguments
  deriving DecidableEq, Repr

/-- A call of a collaborator that only records it. The options of an
installation are recorded as data. -/
inductive Call
  | version
  | lookup (cluster : String)
  | ingressPort (container : String)
  | tryPort (port : Int)
  | create (cluster : String) (port : Int) (mounts : List Mount)
  | install (options : Datum)

/-- One thing that can be seen. -/
inductive Event
  | print (text : String)
  | panel (text style : String)
  | log (level : LogLevel) (text : String)
  | run (words : List String) (timeout : Int) (input config : Option String)
  | missingCommand (command : String)
  | connect (timeout : Int)
  | engineVersion
  | inspectContainer (name : String)
  | inspectVolume (name : String)
  | runContainer (image : String) (command : List String) (binds : Assoc Bind)
  | disconnect
  | bind (host : String) (port : Int)
  | browser (url : String)
  | usageError (error : UsageError)
  | call (c : Call)
  | ended (operation : String) (outcome : Except Failure Datum)

/-- The style of the panels that head a stage. -/
def panelStyle : String := "bold blue"

namespace Event

/-- A panel that heads a stage. -/
def stage (text : String) : Event := .panel text panelStyle

/-- Whether the event shows at the least level of log records that is shown. -/
def showsAt (least : LogLevel) : Event → Bool
  | .log .debug _ => least = .debug
  | _ => true

end Event

end SingleNode
