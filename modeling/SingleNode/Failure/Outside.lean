/-
# Failures of the outside world

Errors that do not come from the workflow: those of the container engine and of
the connection to it, those of the file system, and those of no particular part.
Each has the name under which it is reported; the engine's overlap, so their
classes are predicates.
-/

namespace SingleNode

/-- Errors of the container engine and of the connection to it. The first seven
are engine errors, the rest errors of the connection; `api` and the two kinds of
`notFound` are both. -/
inductive EngineError
  | engine
  | api
  | notFound
  | imageNotFound
  | invalidVersion
  | nullResource
  | invalidArgument
  | request
  | connection
  | connectTimeout
  | readTimeout
  | timeout
  | http
  | chunkedEncoding
  deriving DecidableEq, Repr

namespace EngineError

def all : List EngineError :=
  [.engine, .api, .notFound, .imageNotFound, .invalidVersion, .nullResource,
    .invalidArgument,
    .request, .connection, .connectTimeout, .readTimeout, .timeout, .http,
      .chunkedEncoding]

def name : EngineError → String
  | .engine => "DockerException"
  | .api => "APIError"
  | .notFound => "NotFound"
  | .imageNotFound => "ImageNotFound"
  | .invalidVersion => "InvalidVersion"
  | .nullResource => "NullResource"
  | .invalidArgument => "InvalidArgument"
  | .request => "RequestException"
  | .connection => "ConnectionError"
  | .connectTimeout => "ConnectTimeout"
  | .readTimeout => "ReadTimeout"
  | .timeout => "Timeout"
  | .http => "HTTPError"
  | .chunkedEncoding => "ChunkedEncodingError"

/-- Errors that the engine itself answers with. -/
def isEngine : EngineError → Bool
  | .engine | .api | .notFound | .imageNotFound | .invalidVersion
  | .nullResource | .invalidArgument => true
  | _ => false

/-- Errors that say that the thing asked for does not exist. -/
def isNotFound : EngineError → Bool
  | .notFound | .imageNotFound => true
  | _ => false

/-- Errors that say that no answer came in time. -/
def isTimeout : EngineError → Bool
  | .connectTimeout | .readTimeout | .timeout => true
  | _ => false

/-- No answer of the engine is an answer that came too late. -/
theorem isEngine_eq_false_of_isTimeout {e : EngineError}
    (h : e.isTimeout = true) :
    e.isEngine = false := by
  cases e <;> simp_all [isTimeout, isEngine]

end EngineError

/-- What can be wrong with a path. -/
inductive FileProblem
  | missing
  | exists
  | notDirectory
  | isDirectory
  | nameTooLong
  deriving DecidableEq, Repr

namespace FileProblem

/-- The number that the operating system gives to the problem. -/
def code : FileProblem → Nat
  | .missing => 2
  | .exists => 17
  | .notDirectory => 20
  | .isDirectory => 21
  | .nameTooLong => 36

/-- The words of the operating system for the problem. -/
def reason : FileProblem → String
  | .missing => "No such file or directory"
  | .exists => "File exists"
  | .notDirectory => "Not a directory"
  | .isDirectory => "Is a directory"
  | .nameTooLong => "File name too long"

def name : FileProblem → String
  | .missing => "FileNotFoundError"
  | .exists => "FileExistsError"
  | .notDirectory => "NotADirectoryError"
  | .isDirectory => "IsADirectoryError"
  | .nameTooLong => "OSError"

end FileProblem

/-- Errors of no particular part of the workflow. -/
inductive PlainError
  | runtime
  | value
  | system
  | key
  | type
  | overflow
  | attribute
  | interrupt
  deriving DecidableEq, Repr

namespace PlainError

def all : List PlainError :=
  [.runtime, .value, .system, .key, .type, .overflow, .attribute, .interrupt]

def name : PlainError → String
  | .runtime => "RuntimeError"
  | .value => "ValueError"
  | .system => "OSError"
  | .key => "KeyError"
  | .type => "TypeError"
  | .overflow => "OverflowError"
  | .attribute => "AttributeError"
  | .interrupt => "KeyboardInterrupt"

end PlainError

end SingleNode
