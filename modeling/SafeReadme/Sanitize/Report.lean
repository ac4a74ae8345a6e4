import SafeReadme.Repository.Path

/-!
# Drop reports

Everything that the sanitizer takes out of a document, in document order.
-/

namespace SafeReadme

inductive DropReason where
  /-- The element is not allowed; its children stay. -/
  | disallowedElement
  /-- The element goes together with its content. -/
  | removedWithContent
  | disallowedAttribute
  | duplicateAttribute
  | disallowedScheme (scheme : String)
  | relativeNotAllowed
  | unresolvable (rejection : Rejection)
  /-- The element is nothing without a `src`, and none is left. -/
  | missingSource
  deriving DecidableEq, Repr

def DropReason.message : DropReason → String
  | disallowedElement => "element not allowed"
  | removedWithContent => "removed with its content"
  | disallowedAttribute => "attribute not allowed"
  | duplicateAttribute => "duplicate attribute"
  | disallowedScheme scheme => "scheme `" ++ scheme ++ "` not allowed"
  | relativeNotAllowed => "relative URL not allowed"
  | unresolvable rejection => "unresolvable URL: " ++ rejection.message
  | missingSource => "no usable src"

inductive Drop where
  | element (tag : String) (reason : DropReason)
  | attr (tag name : String) (reason : DropReason)
  deriving DecidableEq, Repr

namespace Drop

def subject : Drop → String
  | element tag _ => "<" ++ tag ++ ">"
  | attr tag name _ => "<" ++ tag ++ " " ++ name ++ ">"

def reason : Drop → DropReason
  | element _ reason => reason
  | attr _ _ reason => reason

def print (d : Drop) : String :=
  d.subject ++ ": " ++ d.reason.message

def isElement : Drop → Bool
  | element _ _ => true
  | attr _ _ _ => false

end Drop

structure Report where
  drops : List Drop
  deriving DecidableEq, Repr, Inhabited

namespace Report

def elements (r : Report) : List Drop :=
  r.drops.filter Drop.isElement

def attributes (r : Report) : List Drop :=
  r.drops.filter (fun d => !d.isElement)

def size (r : Report) : Nat :=
  r.elements.length + r.attributes.length

def isEmpty (r : Report) : Bool :=
  r.drops.isEmpty

def hasElement (r : Report) (tag : String) : Bool :=
  r.drops.any fun
    | .element t _ => t == tag
    | .attr _ _ _ => false

def hasAttribute (r : Report) (tag name : String) : Bool :=
  r.drops.any fun
    | .element _ _ => false
    | .attr t n _ => t == tag && n == name

def print (r : Report) : String :=
  (r.elements ++ r.attributes).foldl (fun out d => out ++ d.print ++ "\n") ""

end Report

end SafeReadme
