import SafeReadme.Policy.Names

/-!
# Sanitization policies

A policy is the allowlist that the sanitizer consults: elements with their attributes, schemes for
the two classes of URLs, attributes that are always set, and elements that go with all they hold.
-/

namespace SafeReadme

inductive UrlClass where
  /-- Where a reader can go: `a[href]`, `q[cite]`. -/
  | link
  /-- What a browser fetches: `img[src]`, `video[poster]`. -/
  | media
  deriving DecidableEq, Repr

structure Policy where
  /-- The allowed elements, each with the attributes that are allowed on it. -/
  elements : NameMap NameSet
  globalAttributes : NameSet
  /-- Attributes that are always set, by element, in the order of their declaration. -/
  forced : NameMap (List (String × String))
  linkSchemes : NameSet
  mediaSchemes : NameSet
  relativeLinks : Bool
  relativeMedia : Bool
  maxInputLength : Nat
  /-- Elements that are dropped together with their content. -/
  removedWithContent : NameSet
  deriving DecidableEq

namespace Policy

def allowsElement (p : Policy) (tag : String) : Bool :=
  p.elements.contains tag

def allowsAttribute (p : Policy) (tag name : String) : Bool :=
  match p.elements.find? tag with
  | none => false
  | some attributes => attributes.contains name || p.globalAttributes.contains name

def forcedAttributes (p : Policy) (tag : String) : List (String × String) :=
  (p.forced.find? tag).getD []

def allowsScheme (p : Policy) (c : UrlClass) (scheme : String) : Bool :=
  match c with
  | .link => p.linkSchemes.contains scheme
  | .media => p.mediaSchemes.contains scheme

def allowsRelative (p : Policy) : UrlClass → Bool
  | .link => p.relativeLinks
  | .media => p.relativeMedia

def removesWithContent (p : Policy) (tag : String) : Bool :=
  p.removedWithContent.contains tag

def allowedElements (p : Policy) : List String :=
  p.elements.keys

end Policy

end SafeReadme
