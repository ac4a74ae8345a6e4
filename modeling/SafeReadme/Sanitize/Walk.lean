import SafeReadme.Html.Node
import SafeReadme.Html.Tree.Construct
import SafeReadme.Sanitize.Rule

/-!
# The allowlist walk

Depth first and in document order: elements that go with their content are dropped whole, other
elements that are not allowed make way for their children, and the attributes of what stays are
filtered. Forced attributes are written where the source has them, and at the end where it has not.
A document as a whole is refused only for its size or its nesting.
-/

namespace SafeReadme

structure Sanitizer where
  policy : Policy
  coordinate : Option Coordinate

structure Walked (α : Type) where
  kept : List α
  drops : List Drop

namespace Walked

variable {α : Type}

instance : Append (Walked α) :=
  ⟨fun a b => ⟨a.kept ++ b.kept, a.drops ++ b.drops⟩⟩

def nothing : Walked α :=
  ⟨[], []⟩

def keep (a : α) : Walked α :=
  ⟨[a], []⟩

def drop (d : Drop) : Walked α :=
  ⟨[], [d]⟩

end Walked

namespace Sanitizer

open Html

/-- Filters one attribute of `tag`; `seen` holds the names that came before it. -/
def walkAttribute (s : Sanitizer) (tag : String) (seen : List String) (a : Attribute) :
    Walked Attribute :=
  if seen.contains a.name then .drop (.attr tag a.name .duplicateAttribute)
  else
    match (s.policy.forcedAttributes tag).lookup a.name with
    | some fixed => .keep ⟨a.name, fixed⟩
    | none =>
        if !s.policy.allowsAttribute tag a.name then
          .drop (.attr tag a.name .disallowedAttribute)
        else
          let rule := Rule.forAttribute tag a.name s.coordinate.isSome
          match rule.apply a.value s.policy s.coordinate with
          | .ok value => .keep ⟨a.name, value⟩
          | .error reason => .drop (.attr tag a.name reason)

def walkSource (s : Sanitizer) (tag : String) (seen : List String) :
    List Attribute → Walked Attribute
  | [] => .nothing
  | a :: rest => s.walkAttribute tag seen a ++ s.walkSource tag (a.name :: seen) rest

/-- The forced attributes of `tag` that its source lacks. -/
def missingForced (s : Sanitizer) (tag : String) (source : List Attribute) : List Attribute :=
  ((s.policy.forcedAttributes tag).filter
    (fun forced => !(source.map Attribute.name).contains forced.1)).map
      (fun forced => ⟨forced.1, forced.2⟩)

def walkAttributes (s : Sanitizer) (tag : String) (source : List Attribute) : Walked Attribute :=
  s.walkSource tag [] source ++ ⟨s.missingForced tag source, []⟩

mutual

def walkNode (s : Sanitizer) : Node → Walked Node
  | .text content => .keep (.text content)
  | .element tag attributes children =>
      if s.policy.removesWithContent tag then .drop (.element tag .removedWithContent)
      else if !s.policy.allowsElement tag then
        .drop (.element tag .disallowedElement) ++ s.walkForest children
      else
        let filtered := s.walkAttributes tag attributes
        if Rule.requiresSource tag && !filtered.kept.any (fun a => a.name == "src") then
          ⟨[], filtered.drops ++ [.element tag .missingSource]⟩
        else
          let inner := s.walkForest children
          ⟨[.element tag filtered.kept inner.kept], filtered.drops ++ inner.drops⟩

def walkForest (s : Sanitizer) : List Node → Walked Node
  | [] => .nothing
  | node :: rest => s.walkNode node ++ s.walkForest rest

end

end Sanitizer

/-! ## Documents -/

inductive Refusal where
  | tooLarge (size max : Nat)
  | tooDeep (max : Nat)
  deriving DecidableEq, Repr

def Refusal.message : Refusal → String
  | tooLarge size max =>
      "input is " ++ toString size ++ " bytes, over the " ++ toString max ++ " byte limit"
  | tooDeep max => "elements nested deeper than " ++ toString max ++ " levels"

structure Rendered where
  html : String
  report : Report
  deriving DecidableEq, Repr, Inhabited

def readWithin (max : Nat) (html : String) : Except Refusal (List Html.Node) :=
  if max < html.utf8ByteSize then .error (.tooLarge html.utf8ByteSize max)
  else
    match Html.read? html with
    | some nodes => .ok nodes
    | none => .error (.tooDeep Html.maxDepth)

def Sanitizer.sanitizeNodes (s : Sanitizer) (nodes : List Html.Node) : Rendered :=
  let walked := s.walkForest nodes
  ⟨Html.write walked.kept, ⟨walked.drops⟩⟩

def Sanitizer.sanitize (s : Sanitizer) (html : String) : Except Refusal Rendered :=
  (readWithin s.policy.maxInputLength html).map s.sanitizeNodes

end SafeReadme
