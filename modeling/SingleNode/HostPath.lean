/-
# Paths

A path is normalised when it is read: empty parts and parts `.` are dropped,
parts `..` are kept, and leading slashes become one, except that exactly two
stay two.
-/
import SingleNode.Text.Blank

namespace SingleNode

/-- A normalised path. The root is empty for a relative path. -/
structure HostPath where
  root : String
  parts : List String
  deriving DecidableEq, Repr

namespace HostPath

/-- How many slashes a normalised path keeps of those at its front. -/
def rootOf (leading : Nat) : String :=
  if leading = 0 then "" else if leading = 2 then "//" else "/"

def ofString (s : String) : HostPath where
  root := rootOf (s.toList.takeWhile (· == '/')).length
  parts := (Text.split '/' s).filter fun p => p != "" && p != "."

/-- The text of a path; the empty relative path is `.`. -/
protected def toString (p : HostPath) : String :=
  if p.root = "" && p.parts.isEmpty then "." else p.root ++
    String.intercalate "/" p.parts

/-- A relative path below another. -/
def append (p : HostPath) (parts : List String) : HostPath :=
  { p with parts := p.parts ++ parts }

def parent (p : HostPath) : HostPath :=
  { p with parts := p.parts.dropLast }

/-- Holds if the path starts at the root of the file system. -/
def isAbsolute (p : HostPath) : Bool := p.root != ""

example : (ofString "a//b/./c/").toString = "a/b/c" := by cbv

end HostPath

end SingleNode
