import SafeReadme.Proofs.Config.Overrides
import SafeReadme.Proofs.Policy.Grants

/-!
# What a configuration makes of the Packagist policy

The overrides are carried out as changes one after another, the first of which may clear what the
policy has. `Describes` says what each part of the policy is in the end, by the fields that it comes
from and no others: a field that is given takes the place of what Packagist has, and only the extra
elements come on top.
-/

namespace SafeReadme

def Step.forces? (tag : String) : Step → Option (String × String)
  | forceAttribute given name value =>
      if tag == given.toLower then some (name.toLower, value) else none
  | _ => none

namespace Draft

/-! ## Changes to one part of a draft -/

theorem applyAll_append (d : Draft) (steps steps' : List Step) :
    d.applyAll (steps ++ steps') = (d.applyAll steps).applyAll steps' :=
  List.foldl_append

theorem applyAll_allowGlobalAttribute (d : Draft) (names : List String) :
    d.applyAll (names.map .allowGlobalAttribute) =
      { d with
        policy.globalAttributes :=
          d.policy.globalAttributes.addAll (names.map String.toLower) } := by
  induction names generalizing d with
  | nil => rfl
  | cons name rest ih => exact ih (d.apply (.allowGlobalAttribute name))

def setAll (attributes given : List (String × String)) : List (String × String) :=
  given.foldl (fun attributes a => setLast a.1 a.2 attributes) attributes

/-- Changes that force attributes change nothing else, and each tag gets its own in their order. -/
theorem exists_forced_applyAll {steps : List Step}
    (hsteps : ∀ step ∈ steps, ∃ tag name value, step = .forceAttribute tag name value) (d : Draft) :
    ∃ forced, d.applyAll steps = { d with policy.forced := forced } ∧
      ∀ tag, forced.find? tag =
        if steps.filterMap (·.forces? tag) = [] then d.policy.forced.find? tag
        else some (setAll (d.policy.forcedAttributes tag) (steps.filterMap (·.forces? tag))) := by
  -- The first step adds to what `d` forces, and the others to what is forced then.
  induction steps generalizing d with
  | nil => exact ⟨d.policy.forced, rfl, fun tag => by simp⟩
  | cons step rest ih =>
      obtain ⟨given, name, value, rfl⟩ := hsteps step List.mem_cons_self
      obtain ⟨forced, hrest, hforced⟩ := ih (fun s hs => hsteps s (List.mem_cons_of_mem _ hs))
        (d.apply (.forceAttribute given name value))
      refine ⟨forced, hrest, fun tag => ?_⟩
      rw [hforced, forcedAttributes_apply_forceAttribute]
      by_cases htag : tag = given.toLower
      · have hfirst : (Step.forceAttribute given name value).forces? tag =
            some (name.toLower, value) := by
          simp [Step.forces?, htag]
        rw [List.filterMap_cons_some hfirst, if_pos htag, if_neg (List.cons_ne_nil _ _), ← htag]
        split
        next hnone =>
          rw [hnone, apply, NameMap.find?_alter, if_pos htag, ← htag]
          rfl
        next => rfl
      · have hfirst : (Step.forceAttribute given name value).forces? tag = none := by
          simp [Step.forces?, htag]
        rw [List.filterMap_cons_none hfirst, if_neg htag]
        split
        · rw [apply, NameMap.find?_alter, if_neg htag]
        · rfl

end Draft

namespace PolicyOverrides

open Draft

/-! ## What the fields say -/

def loweredOr (names? : Option (List String)) (otherwise : NameSet) : NameSet :=
  (names?.map NameSet.lowered).getD otherwise

def hasTag (table : NameMap (List String)) (tag : String) : Bool :=
  table.entries.any fun entry => tag == entry.1.toLower

def hasAttribute (table : NameMap (List String)) (tag name : String) : Bool :=
  table.entries.any fun entry =>
    tag == entry.1.toLower && (entry.2.map String.toLower).contains name

def baseHasTag (table? : Option (NameMap (List String))) (tag : String) : Bool :=
  match table? with
  | some table => hasTag table tag
  | none => Policy.packagist.allowsElement tag

def baseHasAttribute (table? : Option (NameMap (List String))) (tag name : String) : Bool :=
  match table? with
  | some table => hasAttribute table tag name
  | none => Policy.packagist.elements.lists tag name

/-- The attributes that a table forces on a tag, in the order of the table. There are several of one
name where spellings differ in case only. -/
def forcedOn (table : NameMap (NameMap String)) (tag : String) : List (String × String) :=
  table.entries.flatMap fun entry =>
    if tag == entry.1.toLower then entry.2.entries.map fun a => (a.1.toLower, a.2) else []

/-- Of several attributes with one name the last. -/
def lastOfEach : List (String × String) → List (String × String)
  | [] => []
  | a :: rest => if rest.any (·.1 == a.1) then lastOfEach rest else a :: lastOfEach rest

/-- What the overrides say of a policy, part by part. -/
structure Describes (p : PolicyOverrides) (policy : Policy) : Prop where
  removed : policy.removedWithContent =
    loweredOr p.removedWithContent Policy.packagist.removedWithContent
  /-- The elements of the table and the extra ones, without those that are removed. -/
  allowed : ∀ tag, policy.allowsElement tag =
    (!policy.removesWithContent tag && (baseHasTag p.elements tag || hasTag p.extraElements tag))
  attributes : ∀ tag, policy.allowsElement tag = true → ∀ name, policy.elements.lists tag name =
    (baseHasAttribute p.elements tag name || hasAttribute p.extraElements tag name)
  globals : policy.globalAttributes = loweredOr p.globalAttributes Policy.packagist.globalAttributes
  linkSchemes : policy.linkSchemes = loweredOr p.linkSchemes Policy.packagist.linkSchemes
  mediaSchemes : policy.mediaSchemes = loweredOr p.mediaSchemes Policy.packagist.mediaSchemes
  relativeLinks : policy.relativeLinks = p.relativeLinks.getD Policy.packagist.relativeLinks
  relativeMedia : policy.relativeMedia = p.relativeMedia.getD Policy.packagist.relativeMedia
  maxInputLength : policy.maxInputLength = p.maxInputLength.getD Policy.packagist.maxInputLength
  forcedKept : p.forcedAttributes = none → policy.forced = Policy.packagist.forced
  /-- A tag on which nothing is forced has no entry. -/
  forcedGiven : ∀ table ∈ p.forcedAttributes, ∀ tag attributes,
    policy.forced.find? tag = some attributes ↔
      attributes = lastOfEach (forcedOn table tag) ∧ attributes ≠ []

/-! ## What the steps of each field make of a draft -/

theorem setAll_eq (attributes given : List (String × String)) :
    setAll attributes given =
      attributes.filter (fun a => !given.any (·.1 == a.1)) ++ lastOfEach given := by
  induction given generalizing attributes with
  | nil => simp [setAll, lastOfEach]
  | cons a rest ih =>
      -- What `a` sets is behind all others, and stays there unless `rest` sets it again.
      have hstep : setAll attributes (a :: rest) = setAll (setLast a.1 a.2 attributes) rest := rfl
      have hfilter : (attributes.filter (·.1 != a.1)).filter (fun b => !rest.any (·.1 == b.1)) =
          attributes.filter (fun b => !(a :: rest).any (·.1 == b.1)) := by
        rw [List.filter_filter]
        refine List.filter_congr fun b _ => ?_
        rw [List.any_cons, Bool.not_or, Bool.and_comm, bne, Bool.beq_comm]
      rw [hstep, ih, setLast, List.filter_append, hfilter, lastOfEach, List.append_assoc]
      by_cases hlater : rest.any (·.1 == a.1) = true <;> simp [hlater]

theorem setAll_nil (given : List (String × String)) : setAll [] given = lastOfEach given := by
  rw [setAll_eq]
  rfl

theorem lastOfEach_ne_nil {given : List (String × String)} (h : given ≠ []) :
    lastOfEach given ≠ [] := by
  induction given with
  | nil => exact absurd rfl h
  | cons a rest ih =>
      rw [lastOfEach]
      split
      next hlater =>
        apply ih
        rintro rfl
        cases hlater
      · exact List.cons_ne_nil _ _

theorem accumulates_of_mem_allowSteps {table : NameMap (List String)} {step : Step}
    (h : step ∈ allowSteps table) : step.Accumulates := by
  obtain ⟨⟨tag, attributes⟩, -, rfl⟩ := List.mem_map.1 h
  trivial

theorem any_allows_allowSteps (table : NameMap (List String)) (tag : String) :
    (allowSteps table).any (·.allows tag) = hasTag table tag := by
  rw [allowSteps, List.any_map]
  rfl

theorem any_grants_allowSteps (table : NameMap (List String)) (tag name : String) :
    (allowSteps table).any (·.grants tag name) = hasAttribute table tag name := by
  rw [allowSteps, List.any_map]
  rfl

theorem any_removes_allowSteps (table : NameMap (List String)) (tag : String) :
    (allowSteps table).any (·.removes tag) = false := by
  rw [allowSteps, List.any_map, List.any_eq_false]
  intro entry _
  simp [Step.removes]

theorem filterMap_forces?_forceSteps (table : NameMap (NameMap String)) (tag : String) :
    (forceSteps table).filterMap (·.forces? tag) = forcedOn table tag := by
  rw [forceSteps, List.filterMap_flatMap, forcedOn]
  congr 1
  funext entry
  rw [List.filterMap_map]
  split
  next htag =>
    rw [← List.filterMap_eq_map]
    congr 1
    funext a
    simp only [Function.comp_apply, Step.forces?, htag, if_true]
  next htag =>
    rw [List.filterMap_eq_nil_iff]
    intro a _
    simp only [Function.comp_apply, Step.forces?, htag]
    rfl

/-! ## The whole chain -/

/-- A draft of the Packagist policy in which nothing but the elements is changed, and these allow
what `tags` and `grants` say. -/
structure Extends (d : Draft) (tags : String → Bool) (grants : String → String → Bool) : Prop where
  policy : d.policy = { Policy.packagist with elements := d.policy.elements }
  allowed : ∀ tag, d.policy.allowsElement tag = tags tag
  granted : ∀ tag name, d.grants tag name = grants tag name

theorem Extends.allow {d : Draft} {tags : String → Bool} {grants : String → String → Bool}
    (h : Extends d tags grants) (table : NameMap (List String)) :
    Extends (d.applyAll (allowSteps table)) (fun tag => tags tag || hasTag table tag)
      (fun tag name => grants tag name || hasAttribute table tag name) := by
  have hgathers : d.Gathers (allowSteps table) (d.applyAll (allowSteps table)) :=
    gathers_applyAll (fun _ => accumulates_of_mem_allowSteps) d
  have hstays := any_removes_allowSteps table
  constructor
  case policy =>
    -- Two sets that allowing leaves with the same members are the same sets.
    have hremoved : (d.applyAll (allowSteps table)).policy.removedWithContent =
        d.policy.removedWithContent := by
      refine NameMap.eq_of_contains fun tag => ?_
      have htag := hgathers.removed tag
      rwa [hstays] at htag
    have hglobals : (d.applyAll (allowSteps table)).policy.globalAttributes =
        d.policy.globalAttributes := by
      refine NameMap.eq_of_contains fun name => ?_
      have hname := hgathers.globals name
      have hnone : (allowSteps table).any (·.grantsToAll name) = false := by
        rw [allowSteps, List.any_map, List.any_eq_false]
        intro entry _
        simp [Step.grantsToAll]
      rwa [hnone] at hname
    rw [hgathers.rest, hremoved, hglobals, h.policy]
  case allowed =>
    intro tag
    rw [hgathers.allowed tag (hstays tag), any_allows_allowSteps, h.allowed, Bool.or_comm]
  case granted =>
    intro tag name
    rw [hgathers.granted tag name (hstays tag), any_grants_allowSteps, h.granted, Bool.or_comm]

theorem extends_elements (p : PolicyOverrides) :
    Extends (Policy.packagist.toDraft.applyAll
        (stepsFor (fun elements => .clearElements :: allowSteps elements) p.elements ++
          allowSteps p.extraElements))
      (fun tag => baseHasTag p.elements tag || hasTag p.extraElements tag)
      (fun tag name =>
        baseHasAttribute p.elements tag name || hasAttribute p.extraElements tag name) := by
  rw [applyAll_append]
  apply Extends.allow
  cases p.elements with
  | none => exact ⟨rfl, fun _ => rfl, fun tag name => Bool.or_false _⟩
  | some table =>
      have hcleared : Extends (Policy.packagist.toDraft.apply .clearElements) (fun _ => false)
          (fun _ _ => false) := ⟨rfl, fun _ => rfl, fun _ _ => rfl⟩
      exact hcleared.allow table

theorem exists_forced_stepsFor (field : Option (NameMap (NameMap String))) (d : Draft) :
    ∃ forced, d.applyAll
          (stepsFor (fun forced => .clearForcedAttributes :: forceSteps forced) field) =
        { d with policy.forced := forced } ∧
      (field = none → forced = d.policy.forced) ∧
      ∀ table ∈ field, ∀ tag attributes, forced.find? tag = some attributes ↔
        attributes = lastOfEach (forcedOn table tag) ∧ attributes ≠ [] := by
  cases field with
  | none => exact ⟨d.policy.forced, rfl, fun _ => rfl, fun table htable => by cases htable⟩
  | some table =>
      have hforce : ∀ step ∈ forceSteps table, ∃ tag name value,
          step = .forceAttribute tag name value := by
        intro step hstep
        obtain ⟨entry, -, hstep⟩ := List.mem_flatMap.1 hstep
        obtain ⟨a, -, rfl⟩ := List.mem_map.1 hstep
        exact ⟨_, _, _, rfl⟩
      obtain ⟨forced, hsteps, hforced⟩ :=
        exists_forced_applyAll hforce (d.apply .clearForcedAttributes)
      refine ⟨forced, hsteps, nofun, ?_⟩
      rintro table' ⟨⟩ tag attributes
      have hcleared : (d.apply .clearForcedAttributes).policy.forcedAttributes tag = [] := rfl
      rw [hforced, filterMap_forces?_forceSteps, hcleared, setAll_nil]
      by_cases hgiven : forcedOn table tag = []
      · have hnone : (d.apply .clearForcedAttributes).policy.forced.find? tag = none := rfl
        rw [if_pos hgiven, hnone, hgiven, lastOfEach]
        simp
      · rw [if_neg hgiven, Option.some.injEq, eq_comm]
        refine ⟨fun h => ⟨h, h ▸ lastOfEach_ne_nil hgiven⟩, And.left⟩

/-- The steps of the fields that are not about elements change one part each. -/
theorem exists_applyAll_steps (p : PolicyOverrides) (start : Draft) {d : Draft}
    (hd : start.applyAll
      (stepsFor (fun elements => .clearElements :: allowSteps elements) p.elements ++
        allowSteps p.extraElements) = d) :
    ∃ forced, (p.forcedAttributes = none → forced = d.policy.forced) ∧
      (∀ table ∈ p.forcedAttributes, ∀ tag attributes, forced.find? tag = some attributes ↔
        attributes = lastOfEach (forcedOn table tag) ∧ attributes ≠ []) ∧
      start.applyAll p.steps = { d with
        policy.globalAttributes := loweredOr p.globalAttributes d.policy.globalAttributes
        policy.forced := forced
        policy.linkSchemes := loweredOr p.linkSchemes d.policy.linkSchemes
        policy.mediaSchemes := loweredOr p.mediaSchemes d.policy.mediaSchemes
        policy.relativeLinks := p.relativeLinks.getD d.policy.relativeLinks
        policy.relativeMedia := p.relativeMedia.getD d.policy.relativeMedia
        policy.maxInputLength := p.maxInputLength.getD d.policy.maxInputLength
        policy.removedWithContent :=
          loweredOr p.removedWithContent d.policy.removedWithContent } := by
  have hglobals : ∀ d : Draft, d.applyAll (stepsFor
      (fun names => .clearGlobalAttributes :: names.map .allowGlobalAttribute) p.globalAttributes) =
      { d with policy.globalAttributes :=
          loweredOr p.globalAttributes d.policy.globalAttributes } := by
    intro d
    cases p.globalAttributes with
    | none => rfl
    | some names => exact applyAll_allowGlobalAttribute (d.apply .clearGlobalAttributes) names
  obtain ⟨forced, hforced, hkept, hgiven⟩ := exists_forced_stepsFor p.forcedAttributes
    { d with policy.globalAttributes := loweredOr p.globalAttributes d.policy.globalAttributes }
  have hlinks : ∀ d : Draft, d.applyAll
      (stepsFor (fun schemes => [.allowLinkSchemes schemes]) p.linkSchemes) =
      { d with policy.linkSchemes := loweredOr p.linkSchemes d.policy.linkSchemes } := by
    intro d
    cases p.linkSchemes <;> rfl
  have hmedia : ∀ d : Draft, d.applyAll
      (stepsFor (fun schemes => [.allowMediaSchemes schemes]) p.mediaSchemes) =
      { d with policy.mediaSchemes := loweredOr p.mediaSchemes d.policy.mediaSchemes } := by
    intro d
    cases p.mediaSchemes <;> rfl
  have hrelativeLinks : ∀ d : Draft, d.applyAll
      (stepsFor (fun allow => [.allowRelativeLinks allow]) p.relativeLinks) =
      { d with policy.relativeLinks := p.relativeLinks.getD d.policy.relativeLinks } := by
    intro d
    cases p.relativeLinks <;> rfl
  have hrelativeMedia : ∀ d : Draft, d.applyAll
      (stepsFor (fun allow => [.allowRelativeMedia allow]) p.relativeMedia) =
      { d with policy.relativeMedia := p.relativeMedia.getD d.policy.relativeMedia } := by
    intro d
    cases p.relativeMedia <;> rfl
  have hlength : ∀ d : Draft, d.applyAll
      (stepsFor (fun length => [.maxInputLength length]) p.maxInputLength) =
      { d with policy.maxInputLength := p.maxInputLength.getD d.policy.maxInputLength } := by
    intro d
    cases p.maxInputLength <;> rfl
  have hremoved : ∀ d : Draft, d.applyAll
      (stepsFor (fun tags => [.removedWithContent tags]) p.removedWithContent) =
      { d with policy.removedWithContent :=
          loweredOr p.removedWithContent d.policy.removedWithContent } := by
    intro d
    cases p.removedWithContent <;> rfl
  refine ⟨forced, hkept, hgiven, ?_⟩
  rw [steps, applyAll_append, applyAll_append, applyAll_append, applyAll_append, applyAll_append,
    applyAll_append, applyAll_append, applyAll_append, hd, hglobals, hforced, hlinks, hmedia,
    hrelativeLinks, hrelativeMedia, hlength, hremoved]

theorem describes_overridden (p : PolicyOverrides) : p.Describes p.overridden := by
  have helements := p.extends_elements
  have hpolicy := helements.policy
  obtain ⟨forced, hkept, hgiven, hsteps⟩ :=
    p.exists_applyAll_steps Policy.packagist.toDraft rfl
  rw [hpolicy] at hkept hsteps
  rw [overridden, hsteps]
  exact {
    removed := rfl
    allowed := fun tag => by
      rw [Draft.allowsElement_finish, ← helements.allowed]
      rfl
    attributes := fun tag hallowed name => by
      rw [Draft.lists_finish, hallowed, Bool.true_and, ← helements.granted]
      rfl
    globals := rfl
    linkSchemes := rfl
    mediaSchemes := rfl
    relativeLinks := rfl
    relativeMedia := rfl
    maxInputLength := rfl
    forcedKept := hkept
    forcedGiven := hgiven }

/-! ## Accepted overrides -/

/-- The overrides leave nothing of a policy open. -/
theorem Describes.eq {p : PolicyOverrides} {policy other : Policy} (h : p.Describes policy)
    (h' : p.Describes other) : other = policy := by
  have hremoved : other.removedWithContent = policy.removedWithContent :=
    h'.removed.trans h.removed.symm
  have hallowed : ∀ tag, other.allowsElement tag = policy.allowsElement tag := by
    intro tag
    rw [h.allowed, h'.allowed, Policy.removesWithContent, Policy.removesWithContent, hremoved]
  have helements : other.elements = policy.elements := by
    refine NameMap.eq_of_lists hallowed fun tag htag name => ?_
    have htag' : policy.allowsElement tag = true := (hallowed tag).symm.trans htag
    rw [h'.attributes tag htag, h.attributes tag htag']
  have hforced : other.forced = policy.forced := by
    cases hfield : p.forcedAttributes with
    | none => rw [h.forcedKept hfield, h'.forcedKept hfield]
    | some table =>
        -- A tag without an entry and one with an empty entry differ, so lookups are compared.
        refine NameMap.eq_of_find? fun tag => Option.ext fun attributes => ?_
        rw [h.forcedGiven table hfield, h'.forcedGiven table hfield]
  calc other
      = ⟨policy.elements, policy.globalAttributes, policy.forced, policy.linkSchemes,
          policy.mediaSchemes, policy.relativeLinks, policy.relativeMedia,
          policy.maxInputLength, policy.removedWithContent⟩ := by
        rw [← helements, ← hforced, ← hremoved, h.globals, h.linkSchemes, h.mediaSchemes,
          h.relativeLinks, h.relativeMedia, h.maxInputLength, ← h'.globals, ← h'.linkSchemes,
          ← h'.mediaSchemes, ← h'.relativeLinks, ← h'.relativeMedia, ← h'.maxInputLength]
    _ = policy := rfl

/-- **Overrides do what they say and nothing else.** If overrides are accepted, each part of the
policy is what the fields for it say, whatever the other fields are, and no other policy is
described by them. -/
theorem describes_of_toPolicy {p : PolicyOverrides} {policy : Policy}
    (h : p.toPolicy = .ok policy) :
    p.Describes policy ∧ ∀ other, p.Describes other → other = policy := by
  obtain ⟨-, -, rfl⟩ := toPolicy_eq_ok_iff.1 h
  exact ⟨p.describes_overridden, fun other hother => p.describes_overridden.eq hother⟩

/-- An extra element, an element that is removed, and an attribute that is forced in two spellings,
the later of which counts. -/
theorem describes_of_toPolicy_spelled :
    let table : NameMap (NameMap String) :=
      NameMap.empty.insert "a" ((NameMap.empty.insert "rel" "late").insert "REL" "early")
    let p : PolicyOverrides := {
      extraElements := NameMap.empty.insert "DIV" ["ID"]
      forcedAttributes := some table
      removedWithContent := some ["P"] }
    ∃ policy, p.toPolicy = .ok policy ∧ p.Describes policy ∧
      policy.allowsAttribute "div" "id" = true ∧ policy.allowsElement "p" = false ∧
      policy.forcedAttributes "a" = [("rel", "late")] := by
  intro table p
  have hdescribes := p.describes_overridden
  have hremoved : ∀ tag, p.overridden.removesWithContent tag =
      (NameSet.lowered ["P"]).contains tag := by
    intro tag
    rw [Policy.removesWithContent, hdescribes.removed]
    rfl
  have hlink : p.overridden.allowsElement "a" = true := by
    rw [hdescribes.allowed, hremoved]
    decide +kernel
  have hdiv : p.overridden.allowsElement "div" = true := by
    have hkept : (NameSet.lowered ["P"]).contains "div" = false := by decide +kernel
    have hextra : hasTag p.extraElements "div" = true := by decide +kernel
    rw [hdescribes.allowed, hremoved, hkept, hextra, Bool.or_true]
    rfl
  have haccepted : p.toPolicy = .ok p.overridden := by
    have hkeys : (p.forcedAttributes.map NameMap.keys).getD [] = ["a"] := rfl
    have hallowed : p.disallowedForced? = none := by
      rw [disallowedForced?, hkeys]
      simp [hlink]
    exact toPolicy_eq_ok_iff.2 ⟨by decide +kernel, hallowed, rfl⟩
  refine ⟨p.overridden, haccepted, (describes_of_toPolicy haccepted).1, ?_, ?_, ?_⟩
  · have hextra : hasAttribute p.extraElements "div" "id" = true := by decide +kernel
    rw [Policy.allowsAttribute_eq, hdescribes.attributes "div" hdiv, hdiv, hextra, Bool.or_true]
    rfl
  · have hgone : (NameSet.lowered ["P"]).contains "p" = true := by decide +kernel
    rw [hdescribes.allowed, hremoved, hgone]
    rfl
  · have hgiven : forcedOn table "a" = [("rel", "early"), ("rel", "late")] := by decide +kernel
    have hlast : lastOfEach (forcedOn table "a") = [("rel", "late")] := by
      rw [hgiven]
      decide
    have hforced : p.overridden.forced.find? "a" = some [("rel", "late")] :=
      (hdescribes.forcedGiven table rfl "a" _).2 ⟨hlast.symm, List.cons_ne_nil _ _⟩
    simp [Policy.forcedAttributes, hforced]

end PolicyOverrides

end SafeReadme
