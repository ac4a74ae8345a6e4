import SafeReadme.Policy.Names

/-!
# Configurations

A configuration is what a file says about the policy, the repository and the page. What the file
leaves out stays as Packagist has it.
-/

namespace SafeReadme

structure PolicyOverrides where
  /-- Stands in place of the allowed elements and their attributes. -/
  elements : Option (NameMap (List String)) := none
  /-- Comes on top of the allowed elements. -/
  extraElements : NameMap (List String) := NameMap.empty
  globalAttributes : Option (List String) := none
  /-- Stands in place of the attributes that are always set, by element and name. -/
  forcedAttributes : Option (NameMap (NameMap String)) := none
  linkSchemes : Option (List String) := none
  mediaSchemes : Option (List String) := none
  relativeLinks : Option Bool := none
  relativeMedia : Option Bool := none
  maxInputLength : Option Nat := none
  removedWithContent : Option (List String) := none
  deriving DecidableEq

structure RepositoryFields where
  host : String
  ownerRepo : String
  basePath : String := ""
  deriving DecidableEq, Repr

structure PageFlags where
  presents : Bool := true
  extended : Bool := true
  deriving DecidableEq, Repr

structure Config where
  policy : PolicyOverrides := {}
  repository : Option RepositoryFields := none
  page : PageFlags := {}
  deriving DecidableEq

end SafeReadme
