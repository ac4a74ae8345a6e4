import SafeReadme.Link
import SafeReadme.Repository.Path
import SafeReadme.Text.Basic
import SafeReadme.Url.Address
import SafeReadme.Url.Basic

/-!
# Repository coordinates

A coordinate says which repository a document lies in, and in which of its directories. Relative
links are resolved against it.
-/

namespace SafeReadme

/-! ## Code hosts

Each code host serves raw files under a prefix of its own. Hosts that are not known by name are
taken to follow the layout that self-hosted forges share.
-/

inductive Forge where
  | gitHub
  | gitLab
  | bitbucket
  | other (host : String)
  deriving DecidableEq, Repr

namespace Forge

def withoutWww (host : String) : String :=
  match "www.".toList.isPrefixOf? host.toList with
  | some rest => String.ofList rest
  | none => host

def ofHost (host : String) : Forge :=
  if withoutWww host = "github.com" then gitHub
  else if withoutWww host = "gitlab.com" then gitLab
  else if withoutWww host = "bitbucket.org" then bitbucket
  else other host

def rawRoot (ownerRepo : String) : Forge → String
  | gitHub => "https://raw.githubusercontent.com/" ++ ownerRepo ++ "/HEAD/"
  | gitLab => "https://gitlab.com/" ++ ownerRepo ++ "/-/raw/HEAD/"
  | bitbucket => "https://bitbucket.org/" ++ ownerRepo ++ "/raw/HEAD/"
  | other host => "https://" ++ host ++ "/" ++ ownerRepo ++ "/raw/HEAD/"

end Forge

/-! ## Coordinates -/

inductive CoordinateError where
  | emptyHost
  | invalidHost (host : String)
  | invalidOwnerRepo (ownerRepo : String)
  | basePathEscapes (basePath : String)
  deriving DecidableEq, Repr

def CoordinateError.message : CoordinateError → String
  | emptyHost => "repository host is empty"
  | invalidHost host => "invalid repository host `" ++ host ++ "`"
  | invalidOwnerRepo ownerRepo =>
      "invalid repository `" ++ ownerRepo ++ "`, expected `owner/repo`"
  | basePathEscapes basePath => "base path `" ++ basePath ++ "` escapes the repository root"

structure Coordinate where
  /-- A host in the form in which a browser prints it. -/
  host : String
  /-- Two or more segments with a slash between neighbours. -/
  ownerRepo : String
  base : List String
  deriving DecidableEq, Repr

namespace Coordinate

def isOutsideHost (c : Char) : Bool :=
  ['/', '\\', '@', '?', '#'].contains c || Text.isBlank c

/-- The host in lower case without surrounding blanks and final slashes. It must be printed
unchanged by a browser, port included. -/
def readHost (host : String) : Except CoordinateError String :=
  let name :=
    (String.ofList (Text.dropWhileEnd (· == '/') (Text.trim host).toList)).toLower
  if name.isEmpty then .error .emptyHost
  else if name.toList.any isOutsideHost then .error (.invalidHost name)
  else
    match Url.Address.parse? ("https://" ++ name ++ "/") with
    | none => .error (.invalidHost name)
    | some address =>
        if address.authority = name then .ok name else .error (.invalidHost name)

def isNameChar (c : Char) : Bool :=
  c.isAlphanum || c == '-' || c == '_' || c == '.'

def isName (segment : String) : Bool :=
  segment != "" && segment != "." && segment != ".." && segment.toList.all isNameChar

def withoutGit (cs : List Char) : List Char :=
  match "tig.".toList.isPrefixOf? cs.reverse with
  | some rest => rest.reverse
  | none => cs

/-- The repository without surrounding blanks and slashes and without `.git`. -/
def readOwnerRepo (ownerRepo : String) : Except CoordinateError String :=
  let name := withoutGit (Text.trimBy (· == '/') (Text.trim ownerRepo).toList)
  let segments := Text.splitAt '/' (String.ofList name)
  if segments.length < 2 || !segments.all isName then .error (.invalidOwnerRepo ownerRepo)
  else .ok (Text.joinWith "/" segments)

/-- The coordinate that a caller describes. The host is judged first, then the repository, then the
base path. -/
def make (host ownerRepo basePath : String) : Except CoordinateError Coordinate := do
  let host ← readHost host
  let name ← readOwnerRepo ownerRepo
  match Repository.walk [] basePath with
  | .error _ => .error (.basePathEscapes basePath)
  | .ok place => .ok ⟨host, name, place.segments⟩

def forge (c : Coordinate) : Forge :=
  Forge.ofHost c.host

def rawRoot (c : Coordinate) : String :=
  c.forge.rawRoot c.ownerRepo

def basePath (c : Coordinate) : String :=
  let joined := Text.joinWith "/" c.base
  if joined.isEmpty then joined else joined ++ "/"

/-- The URL of the raw file that a link names. It is looked up from the repository root or from
the directory of the document; query and fragment stay as they are. -/
def rawUrl (c : Coordinate) (link : String) (fromRoot : Bool) : Except Rejection String := do
  let (path, suffix) := Url.splitSuffix link
  let joined ← Repository.join (if fromRoot then [] else c.base) path
  let url := c.rawRoot ++ joined ++ suffix
  match Url.Address.parse? url with
  | none => .error .malformed
  | some _ => .ok url

def print (c : Coordinate) : String :=
  c.host ++ "/" ++ c.ownerRepo ++ if c.base.isEmpty then "" else " (" ++ c.basePath ++ ")"

end Coordinate

/-! ## Links

Links of the repository become URLs of raw files, links relative to the scheme get `https`, and
all others stay as they are. Whether a scheme is allowed is judged elsewhere.
-/

def resolve (link : String) (coordinate : Option Coordinate) : Except Rejection String :=
  if link.isEmpty then .error .empty
  else
    let inRepository (fromRoot : Bool) : Except Rejection String :=
      match coordinate with
      | none => .error .noRepository
      | some c => c.rawUrl link fromRoot
    match Link.classify link with
    | .absolute _ _ | .fragment _ => .ok link
    | .schemeRelative link =>
        let promoted := "https://" ++ String.ofList (link.toList.drop 2)
        match Url.Address.parse? promoted with
        | none => .error .malformed
        | some _ => .ok promoted
    | .rootRelative _ => inRepository true
    | .documentRelative _ => inRepository false

end SafeReadme
