import SafeReadme.Policy.Basic
import SafeReadme.Repository.Coordinate
import SafeReadme.Sanitize.Report

/-!
# Rules for attribute values

A value that holds no URL passes as it is. A URL is read as a browser reads it; its scheme must be
allowed, and when the repository is known a relative one is resolved.
-/

namespace SafeReadme

inductive Rule where
  | passThrough
  /-- A URL in a document of no known repository. -/
  | schemeFiltered (c : UrlClass)
  /-- A URL in a document of a known repository. -/
  | resolved (c : UrlClass)
  deriving DecidableEq, Repr

namespace Rule

def urlClass (tag name : String) : Option UrlClass :=
  if name = "href" then
    if ["a", "area"].contains tag then some .link else none
  else if name = "cite" then
    if ["blockquote", "q", "del", "ins"].contains tag then some .link else none
  else if name = "src" then
    if ["img", "audio", "video", "source", "track"].contains tag then some .media else none
  else if name = "poster" then
    if tag = "video" then some .media else none
  else none

def forAttribute (tag name : String) (hasRepository : Bool) : Rule :=
  match urlClass tag name with
  | none => passThrough
  | some c => if hasRepository then resolved c else schemeFiltered c

def requiresSource (tag : String) : Bool :=
  tag == "img"

def rewrite (rule : Rule) (link : String) (coordinate : Option Coordinate) :
    Except Rejection String :=
  match rule, Link.classify link with
  | resolved _, _ | _, .schemeRelative _ => resolve link coordinate
  | _, _ => .ok link

def applyUrl (rule : Rule) (c : UrlClass) (value : String) (policy : Policy)
    (coordinate : Option Coordinate) : Except DropReason String :=
  let link := Url.canonical value
  if link.isEmpty then .error (.unresolvable .empty)
  else if (Link.classify link).isRelativePath && !policy.allowsRelative c then
    .error .relativeNotAllowed
  else
    match rewrite rule link coordinate with
    | .error rejection => .error (.unresolvable rejection)
    | .ok rewritten =>
        match Url.scheme? rewritten with
        | none => .ok rewritten
        | some scheme =>
            if policy.allowsScheme c scheme then .ok rewritten
            else .error (.disallowedScheme scheme)

def apply (rule : Rule) (value : String) (policy : Policy) (coordinate : Option Coordinate) :
    Except DropReason String :=
  match rule with
  | passThrough => .ok value
  | schemeFiltered c | resolved c => applyUrl rule c value policy coordinate

end Rule

end SafeReadme
