import SafeReadme.Text.Basic

/-!
# Files

What a run may find under a path, and a directory that is held in memory.
-/

namespace SafeReadme

inductive FileProblem where
  | missing
  | isDirectory
  /-- The path goes on behind a file. -/
  | throughFile
  | notText
  deriving DecidableEq, Repr

def FileProblem.message : FileProblem → String
  | missing => "No such file or directory (os error 2)"
  | isDirectory => "Is a directory (os error 21)"
  | throughFile => "Not a directory (os error 20)"
  | notText => "stream did not contain valid UTF-8"

abbrev Files : Type :=
  String → Except FileProblem ByteArray

namespace Files

def isFile (files : Files) (path : String) : Bool :=
  (files path).isOk

def readText (files : Files) (path : String) : Except FileProblem String := do
  match String.fromUTF8? (← files path) with
  | some text => .ok text
  | none => .error .notText

def name? (path : String) : Option String :=
  let segments := (Text.splitAt '/' path).filter fun segment => segment != "" && segment != "."
  segments.getLast?.filter (· != "..")

/-- The part of a name behind its last dot; a dot at the start of a name does not count. -/
def extension? (name : String) : Option String :=
  match (name.toList.reverse.span (· != '.')) with
  | (extension, '.' :: _ :: _) => some (String.ofList extension.reverse)
  | _ => none

/-! ## Directories in memory -/

structure Stored where
  path : List String
  content : ByteArray

def Stored.at? (all : List Stored) (place : List String) : Except FileProblem ByteArray :=
  match all.find? (·.path == place) with
  | some file => .ok file.content
  | none =>
      if place.isEmpty || all.any (fun file => place.isPrefixOf file.path) then .error .isDirectory
      else .error .missing

/-- Follows segments from a place in a directory. Nothing outside the directory is found. -/
def Stored.follow (all : List Stored) :
    (place segments : List String) → Except FileProblem ByteArray
  | place, [] => at? all place
  | place, segment :: rest =>
      match at? all place with
      | .error .isDirectory =>
          if segment = "" || segment = "." then follow all place rest
          else if segment = ".." then
            if place.isEmpty then .error .missing else follow all place.dropLast rest
          else follow all (place ++ [segment]) rest
      | .error problem => .error problem
      | .ok _ => .error .throughFile

def ofList (contents : List (String × ByteArray)) : Files := fun path =>
  if path.isEmpty || path.startsWith "/" then .error .missing
  else
    let all := contents.map fun (path, content) =>
      ⟨(Text.splitAt '/' path).filter (fun s => s != "" && s != "."), content⟩
    Stored.follow all.reverse [] (Text.splitAt '/' path)

end Files

end SafeReadme
