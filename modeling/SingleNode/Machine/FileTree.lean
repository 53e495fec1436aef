/-
# File trees

A tree of directories and files, with a working directory. Entries are only ever
added. A path is walked part by part: each part but the last must be a
directory, and `..` goes to the parent.
-/
import SingleNode.Failure.Outside
import SingleNode.HostPath

namespace SingleNode

/-- What stands at a place in the tree. -/
inductive EntryKind
  | file
  | directory
  deriving DecidableEq, Repr

/-- The working directory, and the entries by their names from the root. The
root itself is always there. -/
structure FileTree where
  base : List String
  entries : List (List String × EntryKind)
  deriving DecidableEq, Repr

namespace FileTree

/-- The most bytes of one part of a path. -/
def maxPartBytes : Nat := 255

def maxPathBytes : Nat := 4095

/-- The tree in which there is nothing but the working directory and what is
above it. -/
def empty (base : List String) : FileTree where
  base := base
  entries :=
    (List.range base.length).map fun i => (base.take (i + 1), .directory)

/-- What stands under a name. -/
def kind? (t : FileTree) (name : List String) : Option EntryKind :=
  if name.isEmpty then some .directory
  else (t.entries.find? fun e => e.1 = name).map Prod.snd

/-- Holds if there is a directory under a name. -/
def isDirectoryName (t : FileTree) (name : List String) : Bool :=
  t.kind? name = some .directory

def walk (t : FileTree) (place : List String) :
    List String → Except FileProblem (List String)
  | [] => .ok place
  | part :: rest =>
    if !t.isDirectoryName place then .error .notDirectory
    else if part = ".." then walk t place.dropLast rest
    else if maxPartBytes < part.utf8ByteSize then .error .nameTooLong
    else if (t.kind? (place ++ [part])).isNone then .error .missing
    else walk t (place ++ [part]) rest

/-- Where a path starts. -/
def start (t : FileTree) (p : HostPath) : List String :=
  if p.isAbsolute then [] else t.base

/-- Holds if the path is longer than the system takes. -/
def isTooLong (p : HostPath) : Bool := maxPathBytes < p.toString.utf8ByteSize

/-- The name of the entry that a path leads to. -/
def locate (t : FileTree) (p : HostPath) : Except FileProblem (List String) :=
  if isTooLong p then .error .nameTooLong else t.walk (t.start p) p.parts

/-- Whether a path leads to a file. It is a problem only if the path is too
long. -/
def isFile (t : FileTree) (p : HostPath) : Except FileProblem Bool :=
  match t.locate p with
  | .ok name => .ok (t.kind? name = some .file)
  | .error .nameTooLong => .error .nameTooLong
  | .error _ => .ok false

def isDirectory (t : FileTree) (p : HostPath) : Bool :=
  match t.locate p with
  | .ok name => t.isDirectoryName name
  | .error _ => false

def add (t : FileTree) (name : List String) (kind : EntryKind) : FileTree :=
  { t with entries := t.entries ++ [(name, kind)] }

def makeDirectory (t : FileTree) (p : HostPath) : Except FileProblem FileTree :=
  if isTooLong p then .error .nameTooLong
  else
    match p.parts.getLast? with
    | none => .error .exists
    | some part =>
      match t.walk (t.start p) p.parent.parts with
      | .error e => .error e
      | .ok place =>
        if !t.isDirectoryName place then .error .notDirectory
        else if part = ".." then .error .exists
        else if maxPartBytes < part.utf8ByteSize then .error .nameTooLong
        else if (t.kind? (place ++ [part])).isSome then .error .exists
        else .ok (t.add (place ++ [part]) .directory)

/-- Makes a directory unless it is there already. -/
def ensureDirectory (t : FileTree) (p : HostPath) :
    FileTree × Option (FileProblem × HostPath) :=
  match t.makeDirectory p with
  | .ok t' => (t', none)
  | .error e =>
    if e ≠ .missing && t.isDirectory p then (t, none) else (t, some (e, p))

/-- Makes a directory and the directories above it, unless they are there
already. What was made before a problem stays. The problem is that of the path
at which it arose. -/
def ensureDirectories (t : FileTree) (p : HostPath) :
    FileTree × Option (FileProblem × HostPath) :=
  match t.makeDirectory p with
  | .error .missing =>
    if p.parts = [] then (t, some (.missing, p))
    else
      match t.ensureDirectories p.parent with
      | (t', some e) => (t', some e)
      | (t', none) => t'.ensureDirectory p
  | _ => t.ensureDirectory p
termination_by p.parts.length
decreasing_by
  simp only [HostPath.parent, List.length_dropLast]
  have : p.parts.length ≠ 0 := by simpa using ‹¬p.parts = []›
  omega

/-- Puts a file at the place that a path leads to, unless there is one. -/
def addFile (t : FileTree) (p : HostPath) : Except FileProblem FileTree :=
  if isTooLong p then .error .nameTooLong
  else
    match p.parts.getLast? with
    | none => .error .isDirectory
    | some part =>
      match t.walk (t.start p) p.parent.parts with
      | .error e => .error e
      | .ok place =>
        if !t.isDirectoryName place then .error .notDirectory
        else if part = ".." then .error .isDirectory
        else if maxPartBytes < part.utf8ByteSize then .error .nameTooLong
        else
          match t.kind? (place ++ [part]) with
          | some .directory => .error .isDirectory
          | some .file => .ok t
          | none => .ok (t.add (place ++ [part]) .file)

/-- The entries below the working directory by their relative paths, in the
order of their texts. A directory has a slash at its end. -/
def listing (t : FileTree) : List String :=
  let texts := t.entries.filterMap fun (name, kind) =>
    if t.base.isPrefixOf name && t.base.length < name.length then
      let text := String.intercalate "/" (name.drop t.base.length)
      some (if kind = .directory then text ++ "/" else text)
    else none
  texts.mergeSort fun a b => decide (a ≤ b)

end FileTree

end SingleNode
