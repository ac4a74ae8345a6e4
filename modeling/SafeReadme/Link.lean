import SafeReadme.Url.Basic

/-!
# Kinds of links

A canonical link is told apart by its first characters alone. Browsers read `\` as `/`, so two of
either in front make a link relative to the scheme only, and one makes it relative to the
repository root.
-/

namespace SafeReadme

inductive Link where
  /-- A link with a scheme, which is kept in lower case. -/
  | absolute (scheme url : String)
  /-- A host and path without a scheme, such as `//host/path`. -/
  | schemeRelative (link : String)
  | fragment (anchor : String)
  | rootRelative (link : String)
  | documentRelative (link : String)
  deriving DecidableEq, Repr

namespace Link

def isSlash (c : Char) : Bool :=
  c == '/' || c == '\\'

/-- The kind of a canonical link. `./#x` is an anchor like `#x`. -/
def classify (link : String) : Link :=
  match Url.scheme? link with
  | some scheme => .absolute scheme link
  | none =>
      match link.toList with
      | '#' :: anchor => .fragment (String.ofList anchor)
      | '.' :: '/' :: '#' :: anchor => .fragment (String.ofList anchor)
      | a :: b :: _ =>
          if isSlash a then
            if isSlash b then .schemeRelative link else .rootRelative link
          else .documentRelative link
      | [a] => if isSlash a then .rootRelative link else .documentRelative link
      | [] => .documentRelative link

def isRelativePath : Link → Bool
  | rootRelative _ | documentRelative _ => true
  | absolute _ _ | schemeRelative _ | fragment _ => false

end Link

end SafeReadme
