import SafeReadme.Policy.Basic

/-!
# Drafting a policy

A draft is a policy in the making. Steps can come in any order: grants of an attribute wait until
the draft is finished and then count for the elements that are allowed by that time. All names are
taken in lower case.
-/

namespace SafeReadme

/-- A policy in the making, and the attributes granted to elements that may not be allowed yet. -/
structure Draft where
  policy : Policy
  granted : NameMap NameSet
  deriving DecidableEq

inductive Step where
  | allowElement (tag : String) (attributes : List String)
  | allowAttribute (name : String) (tags : List String)
  | clearElements
  | clearGlobalAttributes
  | clearForcedAttributes
  | allowGlobalAttribute (name : String)
  | forceAttribute (tag name value : String)
  | allowLinkSchemes (schemes : List String)
  | allowMediaSchemes (schemes : List String)
  | allowRelativeLinks (allow : Bool)
  | allowRelativeMedia (allow : Bool)
  | maxInputLength (length : Nat)
  | removeWithContent (tag : String)
  | removedWithContent (tags : List String)
  /-- Finishes the draft and starts a new one from the policy. -/
  | rebuild
  deriving DecidableEq, Repr

def Policy.toDraft (p : Policy) : Draft :=
  ⟨p, NameMap.empty⟩

namespace Draft

/-- The elements that are dropped with their content unless a draft says otherwise: they hold no
readable prose. -/
def neverProse : List String :=
  ["script", "style", "template", "noscript", "iframe", "object", "embed", "textarea", "title",
    "xmp", "plaintext", "noembed", "noframes"]

def defaultMaxInputLength : Nat :=
  10000000

def empty : Draft where
  policy := {
    elements := NameMap.empty
    globalAttributes := NameMap.empty
    forced := NameMap.empty
    linkSchemes := NameMap.empty
    mediaSchemes := NameSet.lowered ["http", "https", "data"]
    relativeLinks := false
    relativeMedia := false
    maxInputLength := defaultMaxInputLength
    removedWithContent := NameSet.lowered neverProse }
  granted := NameMap.empty

def grant (table : NameMap NameSet) (tag : String) (names : List String) : NameMap NameSet :=
  table.alter tag.toLower fun names? =>
    (names?.getD NameMap.empty).addAll (names.map String.toLower)

def setLast (name value : String) (attributes : List (String × String)) :
    List (String × String) :=
  attributes.filter (fun a => a.1 != name) ++ [(name, value)]

/-- The policy that a draft describes: waiting grants are handed out, and an element that is
dropped with its content is not allowed. -/
def finish (d : Draft) : Policy :=
  let granted := d.policy.elements.mapValues fun tag attributes =>
    match d.granted.find? tag with
    | some more => attributes.union more
    | none => attributes
  { d.policy with
    elements := granted.filterKeys fun tag => !d.policy.removedWithContent.contains tag }

def apply (d : Draft) : Step → Draft
  | .allowElement tag attributes =>
      { d with policy.elements := grant d.policy.elements tag attributes }
  | .allowAttribute name tags =>
      { d with granted := tags.foldl (fun table tag => grant table tag [name]) d.granted }
  | .clearElements =>
      { d with policy.elements := NameMap.empty, granted := NameMap.empty }
  | .clearGlobalAttributes => { d with policy.globalAttributes := NameMap.empty }
  | .clearForcedAttributes => { d with policy.forced := NameMap.empty }
  | .allowGlobalAttribute name =>
      { d with policy.globalAttributes := d.policy.globalAttributes.add name.toLower }
  | .forceAttribute tag name value =>
      { d with
        policy.forced := d.policy.forced.alter tag.toLower fun attributes? =>
          setLast name.toLower value (attributes?.getD []) }
  | .allowLinkSchemes schemes => { d with policy.linkSchemes := NameSet.lowered schemes }
  | .allowMediaSchemes schemes => { d with policy.mediaSchemes := NameSet.lowered schemes }
  | .allowRelativeLinks allow => { d with policy.relativeLinks := allow }
  | .allowRelativeMedia allow => { d with policy.relativeMedia := allow }
  | .maxInputLength length => { d with policy.maxInputLength := length }
  | .removeWithContent tag =>
      { d with
        policy.elements := d.policy.elements.erase tag.toLower
        policy.removedWithContent := d.policy.removedWithContent.add tag.toLower }
  | .removedWithContent tags => { d with policy.removedWithContent := NameSet.lowered tags }
  | .rebuild => d.finish.toDraft

def applyAll (d : Draft) (steps : List Step) : Draft :=
  steps.foldl apply d

end Draft

end SafeReadme
