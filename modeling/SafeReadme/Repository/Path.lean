import SafeReadme.Text.Basic
import SafeReadme.Url.Percent

/-!
# Paths inside a repository

A path is percent-decoded and `\` is read as `/` before `.` and `..` are taken away, so that an
encoded `..` is seen like a plain one. The joined path is encoded again segment by segment. A path
that is refused never fails a render: the attribute that holds it is dropped.
-/

namespace SafeReadme

inductive Rejection where
  | empty
  | noRepository
  | traversal
  | malformed
  deriving DecidableEq, Repr

def Rejection.message : Rejection → String
  | empty => "empty URL"
  | noRepository => "relative URL with no repository to resolve against"
  | traversal => "path escapes the repository root"
  | malformed => "not a well-formed URL"

namespace Repository

/-- A place inside a repository: the segments from its root, and whether the path that led there
ends like a directory. -/
structure Place where
  segments : List String
  isDirectory : Bool
  deriving DecidableEq, Repr

/-- Follows one segment of a path; only `..` at the root fails. -/
def Place.follow (place : Place) (segment : String) : Except Rejection Place :=
  if segment = "" ∨ segment = "." then .ok { place with isDirectory := true }
  else if segment = ".." then
    if place.segments.isEmpty then .error .traversal else .ok ⟨place.segments.dropLast, true⟩
  else .ok ⟨place.segments ++ [segment], false⟩

def segmentsOf (path : String) : Except Rejection (List String) :=
  match Url.decode? path with
  | none => .error .malformed
  | some decoded =>
      if decoded.toList.contains '\x00' then .error .malformed
      else .ok ((Text.fields (fun c => c == '/' || c == '\\') decoded.toList).map String.ofList)

/-- Follows a path from the directory `base`. The root is the empty path, which names no
directory. -/
def walk (base : List String) (path : String) : Except Rejection Place := do
  let place ← (← segmentsOf path).foldlM Place.follow ⟨base, false⟩
  return { place with isDirectory := place.isDirectory && !place.segments.isEmpty }

def mustEscape (c : Char) : Bool :=
  c.toNat < 0x20 || c.toNat == 0x7F ||
    [' ', '"', '#', '%', '/', '<', '>', '?', '\\', '\x60', '\x7b', '\x7d'].contains c

def encodeSegment (segment : String) : String :=
  Url.encode mustEscape segment

def Place.print (place : Place) : String :=
  Text.joinWith "/" (place.segments.map encodeSegment) ++ if place.isDirectory then "/" else ""

def join (base : List String) (path : String) : Except Rejection String :=
  (walk base path).map Place.print

end Repository

end SafeReadme
