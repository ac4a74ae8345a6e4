import SafeReadme.Config.Basic
import SafeReadme.Renderer

/-!
# From a configuration to a renderer

All names and schemes are judged before the policy is built, the repository after that, and the
first fault is reported.
-/

namespace SafeReadme

inductive Fault where
  | invalidName (field name : String)
  | invalidScheme (field scheme : String)
  /-- No input is short enough. -/
  | zeroLength
  | forcedOnDisallowed (tag : String)
  | repository (cause : CoordinateError)
  deriving DecidableEq, Repr

def Fault.message : Fault → String
  | invalidName field name => field ++ ": invalid name \x60" ++ name ++ "\x60"
  | invalidScheme field scheme =>
      field ++ ": invalid scheme \x60" ++ scheme ++ "\x60 (write \x60https\x60, not \x60https:\x60)"
  | zeroLength => "policy.max_input_length: must be greater than 0"
  | forcedOnDisallowed tag =>
      "policy.forced_attributes." ++ tag ++ ": \x60" ++ tag ++ "\x60 is not an allowed element"
  | repository cause => "repository: " ++ cause.message

namespace Config

/-- Whether a text is an ASCII letter and then letters, digits and characters of `more`. -/
def isWord (more : List Char) (word : String) : Bool :=
  match word.toList with
  | [] => false
  | c :: cs => c.isAlpha && cs.all fun c => c.isAlphanum || more.contains c

def isName (name : String) : Bool :=
  isWord ['-'] name

def isScheme (scheme : String) : Bool :=
  isWord ['+', '-', '.'] scheme

def nameFaults (field : String) (names : List String) : List Fault :=
  (names.filter fun name => !isName name).map (.invalidName field)

def schemeFaults (field : String) (schemes : List String) : List Fault :=
  (schemes.filter fun scheme => !isScheme scheme).map (.invalidScheme field)

end Config

namespace PolicyOverrides

def namesIn (elements : NameMap (List String)) : List String :=
  elements.entries.flatMap fun (tag, attributes) => tag :: attributes

def forcedNames (forced : NameMap (NameMap String)) : List String :=
  forced.entries.flatMap fun (tag, attributes) => tag :: attributes.keys

def faults (p : PolicyOverrides) : List Fault :=
  Config.nameFaults "policy.elements" ((p.elements.map namesIn).getD []) ++
    Config.nameFaults "policy.extra_elements" (namesIn p.extraElements) ++
    Config.nameFaults "policy.global_attributes" (p.globalAttributes.getD []) ++
    Config.nameFaults "policy.forced_attributes" ((p.forcedAttributes.map forcedNames).getD []) ++
    Config.nameFaults "policy.removed_with_content" (p.removedWithContent.getD []) ++
    Config.schemeFaults "policy.link_schemes" (p.linkSchemes.getD []) ++
    Config.schemeFaults "policy.media_schemes" (p.mediaSchemes.getD []) ++
    if p.maxInputLength = some 0 then [.zeroLength] else []

def allowSteps (elements : NameMap (List String)) : List Step :=
  elements.entries.map fun (tag, attributes) => .allowElement tag attributes

def forceSteps (forced : NameMap (NameMap String)) : List Step :=
  forced.entries.flatMap fun (tag, attributes) =>
    attributes.entries.map fun (name, value) => .forceAttribute tag name value

def stepsFor {α : Type} (steps : α → List Step) (field : Option α) : List Step :=
  (field.map steps).getD []

def steps (p : PolicyOverrides) : List Step :=
  stepsFor (fun elements => .clearElements :: allowSteps elements) p.elements ++
    allowSteps p.extraElements ++
    stepsFor (fun names => .clearGlobalAttributes :: names.map .allowGlobalAttribute)
      p.globalAttributes ++
    stepsFor (fun forced => .clearForcedAttributes :: forceSteps forced) p.forcedAttributes ++
    stepsFor (fun schemes => [.allowLinkSchemes schemes]) p.linkSchemes ++
    stepsFor (fun schemes => [.allowMediaSchemes schemes]) p.mediaSchemes ++
    stepsFor (fun allow => [.allowRelativeLinks allow]) p.relativeLinks ++
    stepsFor (fun allow => [.allowRelativeMedia allow]) p.relativeMedia ++
    stepsFor (fun length => [.maxInputLength length]) p.maxInputLength ++
    stepsFor (fun tags => [.removedWithContent tags]) p.removedWithContent

/-- The policy with the changes made, whatever they are. -/
def overridden (p : PolicyOverrides) : Policy :=
  (Policy.packagist.toDraft.applyAll p.steps).finish

def disallowedForced? (p : PolicyOverrides) : Option String :=
  let policy := p.overridden
  ((p.forcedAttributes.map NameMap.keys).getD []).find? fun tag => !policy.allowsElement tag

def toPolicy (p : PolicyOverrides) : Except Fault Policy :=
  match p.faults with
  | fault :: _ => .error fault
  | [] =>
      match p.disallowedForced? with
      | some tag => .error (.forcedOnDisallowed tag)
      | none => .ok p.overridden

end PolicyOverrides

def RepositoryFields.toCoordinate (r : RepositoryFields) : Except Fault Coordinate :=
  (Coordinate.make r.host r.ownerRepo r.basePath).mapError .repository

def PageFlags.markdown (p : PageFlags) : Markdown.Options :=
  if p.extended then .extended else .plain

def Config.renderer (c : Config) : Except Fault Renderer := do
  let policy ← c.policy.toPolicy
  let coordinate ← c.repository.mapM RepositoryFields.toCoordinate
  return ⟨policy, coordinate, c.page.markdown, c.page.presents⟩

end SafeReadme
