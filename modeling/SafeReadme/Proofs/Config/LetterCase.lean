import Mathlib.Data.List.Nodup
import SafeReadme.Proofs.Config.Description
import SafeReadme.Proofs.Policy.LoweredKeys

/-!
# The letter case of names in a configuration

Names are judged, granted and removed in any letter case, so a configuration in lower case says the
same. In two places the spelling shows: a tag with forced attributes is looked up as it is written
among the tags that are allowed, which are in lower case, and the attributes are forced in the order
in which their names are written.
-/

namespace SafeReadme

open Text

/-! ## Words in lower case -/

namespace Config

theorem isAlpha_toLower (c : Char) : c.toLower.isAlpha = c.isAlpha := by
  rw [Bool.eq_iff_iff]
  unfold Char.isAlpha
  rw [Bool.or_eq_true, Bool.or_eq_true, isUpper_iff, isUpper_iff, isLower_iff, isLower_iff,
    toNat_toLower]
  split <;> omega

theorem toLower_eq_of_not_isAlpha {c : Char} (h : c.isAlpha = false) : c.toLower = c := by
  refine toLower_eq_self fun hupper => ?_
  unfold Char.isAlpha at h
  rw [isUpper_iff.2 hupper] at h
  cases h

theorem isWord_toLower (more : List Char) (word : String) :
    isWord more word.toLower = isWord more word := by
  have hrest : ∀ c : Char, (c.toLower.isAlphanum || more.contains c.toLower) =
      (c.isAlphanum || more.contains c) := by
    intro c
    unfold Char.isAlphanum
    cases halpha : c.isAlpha with
    | true => rw [isAlpha_toLower, halpha, Bool.true_or, Bool.true_or, Bool.true_or, Bool.true_or]
    | false => rw [toLower_eq_of_not_isAlpha halpha, halpha]
  unfold isWord
  rw [toList_toLower]
  cases word.toList with
  | nil => rfl
  | cons c cs =>
      rw [List.map_cons]
      simp only [isAlpha_toLower, List.all_map, Function.comp_def, hrest]

theorem isName_toLower (name : String) : isName name.toLower = isName name :=
  isWord_toLower _ name

theorem isScheme_toLower (scheme : String) : isScheme scheme.toLower = isScheme scheme :=
  isWord_toLower _ scheme

end Config

namespace PolicyOverrides

/-! ## Overrides in lower case -/

def loweredElements (table : NameMap (List String)) : NameMap (List String) :=
  table.lowerKeys (List.map String.toLower)

def loweredForced (table : NameMap (NameMap String)) : NameMap (NameMap String) :=
  table.lowerKeys (NameMap.lowerKeys id)

def lowered (p : PolicyOverrides) : PolicyOverrides where
  elements := p.elements.map loweredElements
  extraElements := loweredElements p.extraElements
  globalAttributes := p.globalAttributes.map (List.map String.toLower)
  forcedAttributes := p.forcedAttributes.map loweredForced
  linkSchemes := p.linkSchemes.map (List.map String.toLower)
  mediaSchemes := p.mediaSchemes.map (List.map String.toLower)
  relativeLinks := p.relativeLinks
  relativeMedia := p.relativeMedia
  maxInputLength := p.maxInputLength
  removedWithContent := p.removedWithContent.map (List.map String.toLower)

/-- In no table do two keys differ only in letter case. -/
structure DistinctNames (p : PolicyOverrides) : Prop where
  elements : ∀ table ∈ p.elements, table.DistinctKeys
  extraElements : p.extraElements.DistinctKeys
  forcedTags : ∀ table ∈ p.forcedAttributes, table.DistinctKeys
  forcedNames : ∀ table ∈ p.forcedAttributes, ∀ entry ∈ table.entries, entry.2.DistinctKeys

/-- Tags with forced attributes are given in lower case. -/
def LowersForcedTags (p : PolicyOverrides) : Prop :=
  ∀ table ∈ p.forcedAttributes, ∀ tag ∈ table.keys, IsLowered tag

/-- The names of forced attributes stay in their order in lower case. -/
def OrdersForcedNames (p : PolicyOverrides) : Prop :=
  ∀ table ∈ p.forcedAttributes, ∀ entry ∈ table.entries,
    (entry.2.keys.map String.toLower).Pairwise (· < ·)

/-! ## What the fields say in lower case -/

variable {p : PolicyOverrides} {policy policy' : Policy}

theorem forcedAttributes_lowered_eq (p : PolicyOverrides) :
    p.lowered.forcedAttributes = p.forcedAttributes.map loweredForced := rfl

theorem lowered_map_toLower (names : List String) :
    NameSet.lowered (names.map String.toLower) = NameSet.lowered names := by
  have hnames : (names.map String.toLower).map String.toLower = names.map String.toLower := by
    rw [List.map_map]
    exact List.map_congr_left fun name _ => toLower_toLower name
  rw [NameSet.lowered, hnames]
  rfl

theorem loweredOr_map_toLower (names? : Option (List String)) (otherwise : NameSet) :
    loweredOr (names?.map (List.map String.toLower)) otherwise = loweredOr names? otherwise := by
  cases names? with
  | none => rfl
  | some names => exact lowered_map_toLower names

theorem hasTag_loweredElements {table : NameMap (List String)} (h : table.DistinctKeys)
    (tag : String) : hasTag (loweredElements table) tag = hasTag table tag := by
  rw [hasTag, loweredElements, (NameMap.perm_lowerKeys _ h).any_eq, List.any_map]
  simp only [Function.comp_def, toLower_toLower]
  rfl

theorem hasAttribute_loweredElements {table : NameMap (List String)} (h : table.DistinctKeys)
    (tag name : String) :
    hasAttribute (loweredElements table) tag name = hasAttribute table tag name := by
  rw [hasAttribute, loweredElements, (NameMap.perm_lowerKeys _ h).any_eq, List.any_map]
  simp only [Function.comp_def, toLower_toLower, List.map_map]
  rfl

theorem baseHasTag_loweredElements {table? : Option (NameMap (List String))}
    (h : ∀ table ∈ table?, table.DistinctKeys) (tag : String) :
    baseHasTag (table?.map loweredElements) tag = baseHasTag table? tag := by
  cases table? with
  | none => rfl
  | some table => exact hasTag_loweredElements (h table rfl) tag

theorem baseHasAttribute_loweredElements {table? : Option (NameMap (List String))}
    (h : ∀ table ∈ table?, table.DistinctKeys) (tag name : String) :
    baseHasAttribute (table?.map loweredElements) tag name = baseHasAttribute table? tag name := by
  cases table? with
  | none => rfl
  | some table => exact hasAttribute_loweredElements (h table rfl) tag name

/-- In lower case the overrides describe the same policy, but for what is forced. -/
theorem Describes.lowered (h : p.DistinctNames) (hgiven : p.Describes policy)
    (hlowered : p.lowered.Describes policy') :
    p.lowered.Describes { policy with forced := policy'.forced } where
  removed := hgiven.removed.trans (loweredOr_map_toLower _ _).symm
  allowed := fun tag => by
    rw [PolicyOverrides.lowered, hasTag_loweredElements h.extraElements,
      baseHasTag_loweredElements h.elements]
    exact hgiven.allowed tag
  attributes := fun tag hallowed name => by
    rw [PolicyOverrides.lowered, hasAttribute_loweredElements h.extraElements,
      baseHasAttribute_loweredElements h.elements]
    exact hgiven.attributes tag hallowed name
  globals := hgiven.globals.trans (loweredOr_map_toLower _ _).symm
  linkSchemes := hgiven.linkSchemes.trans (loweredOr_map_toLower _ _).symm
  mediaSchemes := hgiven.mediaSchemes.trans (loweredOr_map_toLower _ _).symm
  relativeLinks := hgiven.relativeLinks
  relativeMedia := hgiven.relativeMedia
  maxInputLength := hgiven.maxInputLength
  forcedKept := hlowered.forcedKept
  forcedGiven := hlowered.forcedGiven

theorem Describes.eq_lowered (h : p.DistinctNames) (hgiven : p.Describes policy)
    (hlowered : p.lowered.Describes policy') :
    policy' = { policy with forced := policy'.forced } :=
  (hgiven.lowered h hlowered).eq hlowered

/-! ## What is accepted in lower case -/

theorem nameFaults_eq_nil_iff {field : String} {names : List String} :
    Config.nameFaults field names = [] ↔ ∀ name ∈ names, Config.isName name = true := by
  rw [Config.nameFaults, List.map_eq_nil_iff, List.filter_eq_nil_iff]
  simp

theorem schemeFaults_eq_nil_iff {field : String} {schemes : List String} :
    Config.schemeFaults field schemes = [] ↔
      ∀ scheme ∈ schemes, Config.isScheme scheme = true := by
  rw [Config.schemeFaults, List.map_eq_nil_iff, List.filter_eq_nil_iff]
  simp

def givenSchemes (p : PolicyOverrides) : List String :=
  p.linkSchemes.getD [] ++ p.mediaSchemes.getD []

theorem faults_eq_nil_iff :
    p.faults = [] ↔ (∀ name ∈ p.givenNames, Config.isName name = true) ∧
      (∀ scheme ∈ p.givenSchemes, Config.isScheme scheme = true) ∧
      p.maxInputLength ≠ some 0 := by
  simp only [faults, givenNames, givenSchemes, List.append_eq_nil_iff, nameFaults_eq_nil_iff,
    schemeFaults_eq_nil_iff, List.forall_mem_append, ite_eq_right_iff, List.cons_ne_nil,
    imp_false, and_assoc, ne_eq]

theorem perm_namesIn_loweredElements {table : NameMap (List String)} (h : table.DistinctKeys) :
    (namesIn (loweredElements table)).Perm ((namesIn table).map String.toLower) := by
  rw [namesIn, loweredElements, namesIn, List.map_flatMap]
  refine ((NameMap.perm_lowerKeys _ h).flatMap_right _).trans ?_
  rw [List.flatMap_map]
  exact .refl _

theorem perm_forcedNames_loweredForced {table : NameMap (NameMap String)} (h : table.DistinctKeys)
    (hnames : ∀ entry ∈ table.entries, entry.2.DistinctKeys) :
    (forcedNames (loweredForced table)).Perm ((forcedNames table).map String.toLower) := by
  rw [forcedNames, loweredForced, forcedNames, List.map_flatMap]
  refine ((NameMap.perm_lowerKeys _ h).flatMap_right _).trans ?_
  rw [List.flatMap_map]
  refine .flatMap_left _ fun entry hentry => ?_
  exact (NameMap.perm_keys_lowerKeys id (hnames entry hentry)).cons _

theorem getD_map_toLower (names? : Option (List String)) :
    (names?.map (List.map String.toLower)).getD [] = (names?.getD []).map String.toLower := by
  cases names? <;> rfl

theorem perm_givenNames_lowered (h : p.DistinctNames) :
    p.lowered.givenNames.Perm (p.givenNames.map String.toLower) := by
  have helements : ((p.lowered.elements.map namesIn).getD []).Perm
      (((p.elements.map namesIn).getD []).map String.toLower) := by
    rw [lowered]
    cases hfield : p.elements with
    | none => exact .refl _
    | some table => exact perm_namesIn_loweredElements (h.elements table hfield)
  have hforced : ((p.lowered.forcedAttributes.map forcedNames).getD []).Perm
      (((p.forcedAttributes.map forcedNames).getD []).map String.toLower) := by
    rw [lowered]
    cases hfield : p.forcedAttributes with
    | none => exact .refl _
    | some table =>
        exact perm_forcedNames_loweredForced (h.forcedTags table hfield)
          (h.forcedNames table hfield)
  have hglobals : p.lowered.globalAttributes.getD [] =
      (p.globalAttributes.getD []).map String.toLower := getD_map_toLower _
  have hremoved : p.lowered.removedWithContent.getD [] =
      (p.removedWithContent.getD []).map String.toLower := getD_map_toLower _
  simp only [givenNames, List.map_append, hglobals, hremoved]
  exact (((helements.append (perm_namesIn_loweredElements h.extraElements)).append_right _).append
    hforced).append_right _

theorem faults_lowered_eq_nil_iff (h : p.DistinctNames) :
    p.lowered.faults = [] ↔ p.faults = [] := by
  have hnames : (∀ name ∈ p.lowered.givenNames, Config.isName name = true) ↔
      ∀ name ∈ p.givenNames, Config.isName name = true := by
    -- Lower case may change the order of a table, but which names there are is all that counts.
    simp only [(perm_givenNames_lowered h).mem_iff, List.forall_mem_map, Config.isName_toLower]
  have hschemes : p.lowered.givenSchemes = p.givenSchemes.map String.toLower := by
    rw [givenSchemes, givenSchemes, List.map_append, ← getD_map_toLower, ← getD_map_toLower]
    rfl
  rw [faults_eq_nil_iff, faults_eq_nil_iff, hnames, hschemes, List.forall_mem_map]
  simp only [Config.isScheme_toLower]
  rfl

theorem disallowedForced?_eq_none_iff :
    p.disallowedForced? = none ↔
      ∀ table ∈ p.forcedAttributes, ∀ tag ∈ table.keys, p.overridden.allowsElement tag = true := by
  unfold disallowedForced?
  cases p.forcedAttributes with
  | none => simp
  | some table => simp [List.find?_eq_none]

theorem isLowered_of_allowsElement_overridden {tag : String}
    (h : p.overridden.allowsElement tag = true) : IsLowered tag := by
  have hwell : p.overridden.WellFormed := p.overridden_eq_ofSteps ▸ Policy.wellFormed_ofSteps _
  exact hwell.names.tag h

theorem allowsElement_overridden_lowered (h : p.DistinctNames) (tag : String) :
    p.lowered.overridden.allowsElement tag = p.overridden.allowsElement tag := by
  have heq := p.describes_overridden.eq_lowered h p.lowered.describes_overridden
  rw [Policy.allowsElement, heq]
  rfl

theorem disallowedForced?_lowered_eq_none_iff (h : p.DistinctNames) :
    p.lowered.disallowedForced? = none ↔ ∀ table ∈ p.forcedAttributes, ∀ tag ∈ table.keys,
      p.overridden.allowsElement tag.toLower = true := by
  rw [disallowedForced?_eq_none_iff, forcedAttributes_lowered_eq]
  simp only [allowsElement_overridden_lowered h]
  cases hforced : p.forcedAttributes with
  | none => simp
  | some table =>
      have hkeys := NameMap.perm_keys_lowerKeys (NameMap.lowerKeys id) (h.forcedTags table hforced)
      simp [loweredForced, hkeys.mem_iff]

/-- The tags with forced attributes are allowed as they are written if they are allowed in lower
case and written so. -/
theorem disallowedForced?_eq_none_iff_lowered (h : p.DistinctNames) :
    p.disallowedForced? = none ↔ p.lowered.disallowedForced? = none ∧ p.LowersForcedTags := by
  rw [disallowedForced?_eq_none_iff, disallowedForced?_lowered_eq_none_iff h]
  constructor
  · intro hgiven
    -- The policy has its names in lower case, so a tag that it allows as written is.
    have hlower : p.LowersForcedTags := fun table htable tag htag =>
      isLowered_of_allowsElement_overridden (hgiven table htable tag htag)
    refine ⟨fun table htable tag htag => ?_, hlower⟩
    rw [(hlower table htable tag htag).toLower_eq]
    exact hgiven table htable tag htag
  · rintro ⟨hgiven, hlower⟩ table htable tag htag
    rw [← (hlower table htable tag htag).toLower_eq]
    exact hgiven table htable tag htag

theorem exists_toPolicy_iff :
    (∃ policy, p.toPolicy = .ok policy) ↔ p.faults = [] ∧ p.disallowedForced? = none := by
  simp only [toPolicy_eq_ok_iff, exists_and_left, exists_eq', and_true]

theorem exists_toPolicy_iff_lowered (h : p.DistinctNames) :
    (∃ policy, p.toPolicy = .ok policy) ↔
      (∃ policy, p.lowered.toPolicy = .ok policy) ∧ p.LowersForcedTags := by
  rw [exists_toPolicy_iff, exists_toPolicy_iff, faults_lowered_eq_nil_iff h,
    disallowedForced?_eq_none_iff_lowered h, and_assoc]

/-! ## What is forced in lower case -/

theorem forcedOn_of_mem {table : NameMap (NameMap String)} (h : table.DistinctKeys)
    {entry : String × NameMap String} (hentry : entry ∈ table.entries) :
    forcedOn table entry.1.toLower = entry.2.entries.map fun a => (a.1.toLower, a.2) := by
  obtain ⟨before, after, hsplit⟩ := List.append_of_mem hentry
  unfold NameMap.DistinctKeys NameMap.keys at h
  rw [hsplit, List.map_map, List.map_append, List.map_cons, List.nodup_middle, List.nodup_cons,
    ← List.map_append] at h
  -- No key before or after is this tag in another case, so the other entries add nothing.
  have hother : ∀ es ⊆ before ++ after, (es.flatMap fun e =>
      if entry.1.toLower == e.1.toLower then e.2.entries.map fun a => (a.1.toLower, a.2)
      else []) = [] := by
    intro es hes
    rw [List.flatMap_eq_nil_iff]
    intro e he
    rw [if_neg]
    rw [beq_iff_eq]
    exact fun heq => h.1 (List.mem_map.2 ⟨e, hes he, heq.symm⟩)
  rw [forcedOn, hsplit, List.flatMap_append, List.flatMap_cons,
    hother before (List.subset_append_left _ _), hother after (List.subset_append_right _ _)]
  simp

theorem lastOfEach_eq_self {given : List (String × String)}
    (h : (given.map Prod.fst).Nodup) : lastOfEach given = given := by
  induction given with
  | nil => rfl
  | cons a rest ih =>
      obtain ⟨ha, hrest⟩ := List.nodup_cons.1 h
      have hlater : rest.any (·.1 == a.1) = false := by
        rw [List.any_eq_false]
        intro b hb
        have hmem : b.1 ∈ rest.map Prod.fst := List.mem_map_of_mem hb
        simpa using fun heq : b.1 = a.1 => ha (heq ▸ hmem)
      rw [lastOfEach, hlater, ih hrest]
      rfl

theorem forcedOn_loweredForced_of_mem {table : NameMap (NameMap String)} (h : table.DistinctKeys)
    {entry : String × NameMap String} (hentry : entry ∈ table.entries)
    (hnames : entry.2.DistinctKeys) :
    forcedOn (loweredForced table) entry.1.toLower = (entry.2.lowerKeys id).entries := by
  have hmem : (entry.1.toLower, entry.2.lowerKeys id) ∈ (loweredForced table).entries :=
    (NameMap.mem_entries_lowerKeys h).2 ⟨entry, hentry, rfl⟩
  have hforced := forcedOn_of_mem (NameMap.distinctKeys_lowerKeys _ h) hmem
  rw [toLower_toLower] at hforced
  have hself : ((entry.2.lowerKeys id).entries.map fun a => (a.1.toLower, a.2)) =
      (entry.2.lowerKeys id).entries.map id := by
    refine List.map_congr_left fun a ha => ?_
    rw [(NameMap.isLowered_of_mem_lowerKeys hnames ha).toLower_eq]
    rfl
  exact hforced.trans (hself.trans (List.map_id _))

theorem forcedOn_eq_nil {table : NameMap (NameMap String)} {tag : String}
    (h : ∀ entry ∈ table.entries, entry.1.toLower ≠ tag) : forcedOn table tag = [] := by
  rw [forcedOn, List.flatMap_eq_nil_iff]
  intro entry hentry
  rw [if_neg]
  rw [beq_iff_eq]
  exact (h entry hentry).symm

theorem Describes.find?_forced (h : p.Describes policy)
    {table : NameMap (NameMap String)} (htable : table ∈ p.forcedAttributes) (tag : String) :
    policy.forced.find? tag =
      if lastOfEach (forcedOn table tag) = [] then none
      else some (lastOfEach (forcedOn table tag)) := by
  refine Option.ext fun attributes => ?_
  rw [h.forcedGiven table htable]
  split
  next hnil =>
    rw [hnil]
    simp
  next hne =>
    rw [Option.some.injEq]
    exact ⟨fun h => h.1.symm, fun h => ⟨h.symm, h ▸ hne⟩⟩

theorem Describes.forcedAttributes_eq (h : p.Describes policy)
    {table : NameMap (NameMap String)} (htable : table ∈ p.forcedAttributes) (tag : String) :
    policy.forcedAttributes tag = lastOfEach (forcedOn table tag) := by
  rw [Policy.forcedAttributes, h.find?_forced htable]
  split
  next hnil => exact hnil.symm
  next => rfl

/-- What is forced on a tag that a table names, in both spellings, and that no more is forced. -/
theorem forcedAttributes_lowered (h : p.DistinctNames) (hgiven : p.Describes policy)
    (hlowered : p.lowered.Describes policy') {table : NameMap (NameMap String)}
    (htable : table ∈ p.forcedAttributes) :
    (∀ entry ∈ table.entries,
      policy.forcedAttributes entry.1.toLower = (entry.2.entries.map fun a => (a.1.toLower, a.2)) ∧
        policy'.forcedAttributes entry.1.toLower = (entry.2.lowerKeys id).entries) ∧
      ∀ tag, (∀ entry ∈ table.entries, entry.1.toLower ≠ tag) →
        policy.forcedAttributes tag = [] ∧ policy'.forcedAttributes tag = [] := by
  have htable' : loweredForced table ∈ p.lowered.forcedAttributes := by
    rw [forcedAttributes_lowered_eq, htable]
    rfl
  have hkeys := h.forcedTags table htable
  constructor
  · intro entry hentry
    have hnames := h.forcedNames table htable entry hentry
    rw [hgiven.forcedAttributes_eq htable, hlowered.forcedAttributes_eq htable',
      forcedOn_of_mem hkeys hentry, forcedOn_loweredForced_of_mem hkeys hentry hnames]
    refine ⟨lastOfEach_eq_self ?_, lastOfEach_eq_self (NameMap.nodup_keys _)⟩
    unfold NameMap.DistinctKeys NameMap.keys at hnames
    rw [List.map_map] at hnames ⊢
    exact hnames
  · intro tag htag
    rw [hgiven.forcedAttributes_eq htable, hlowered.forcedAttributes_eq htable',
      forcedOn_eq_nil htag, forcedOn_eq_nil]
    · exact ⟨rfl, rfl⟩
    · intro entry hentry
      obtain ⟨given, hmem, rfl⟩ := (NameMap.mem_entries_lowerKeys hkeys).1 hentry
      rw [toLower_toLower]
      exact htag given hmem

theorem perm_forcedAttributes_lowered (h : p.DistinctNames) (hgiven : p.Describes policy)
    (hlowered : p.lowered.Describes policy') (tag : String) :
    (policy'.forcedAttributes tag).Perm (policy.forcedAttributes tag) := by
  cases hfield : p.forcedAttributes with
  | none =>
      have hfield' : p.lowered.forcedAttributes = none := by
        rw [forcedAttributes_lowered_eq, hfield]
        rfl
      rw [Policy.forcedAttributes, Policy.forcedAttributes, hgiven.forcedKept hfield,
        hlowered.forcedKept hfield']
  | some table =>
      obtain ⟨hentries, hnone⟩ := forcedAttributes_lowered h hgiven hlowered hfield
      by_cases htag : ∃ entry ∈ table.entries, entry.1.toLower = tag
      · obtain ⟨entry, hentry, rfl⟩ := htag
        rw [(hentries entry hentry).1, (hentries entry hentry).2]
        exact NameMap.perm_lowerKeys id (h.forcedNames table hfield entry hentry)
      · obtain ⟨hnil, hnil'⟩ := hnone tag fun entry hentry heq => htag ⟨entry, hentry, heq⟩
        rw [hnil, hnil']

theorem forced_lowered_eq_iff (h : p.DistinctNames) (hgiven : p.Describes policy)
    (hlowered : p.lowered.Describes policy') :
    policy'.forced = policy.forced ↔ p.OrdersForcedNames := by
  cases hfield : p.forcedAttributes with
  | none =>
      have hfield' : p.lowered.forcedAttributes = none := by
        rw [forcedAttributes_lowered_eq, hfield]
        rfl
      rw [hgiven.forcedKept hfield, hlowered.forcedKept hfield', OrdersForcedNames, hfield]
      simp
  | some table =>
      have hfield' : p.lowered.forcedAttributes = some (loweredForced table) := by
        rw [forcedAttributes_lowered_eq, hfield]
        rfl
      have horders : p.OrdersForcedNames ↔ ∀ entry ∈ table.entries,
          (entry.2.keys.map String.toLower).Pairwise (· < ·) := by
        rw [OrdersForcedNames, hfield]
        simp
      obtain ⟨hentries, hnone⟩ := forcedAttributes_lowered h hgiven hlowered hfield
      rw [horders]
      constructor
      · intro hforced entry hentry
        -- In lower case the entries are in order, so they are as written only if these are.
        have hnames := h.forcedNames table hfield entry hentry
        rw [← NameMap.entries_lowerKeys_eq_iff id hnames, ← (hentries entry hentry).2,
          Policy.forcedAttributes, hforced]
        exact (hentries entry hentry).1
      · intro hordered
        refine NameMap.eq_of_find? fun tag => ?_
        have hsame : policy'.forcedAttributes tag = policy.forcedAttributes tag := by
          by_cases htag : ∃ entry ∈ table.entries, entry.1.toLower = tag
          · obtain ⟨entry, hentry, rfl⟩ := htag
            have hnames := h.forcedNames table hfield entry hentry
            rw [(hentries entry hentry).1, (hentries entry hentry).2]
            exact (NameMap.entries_lowerKeys_eq_iff id hnames).2 (hordered entry hentry)
          · obtain ⟨hnil, hnil'⟩ := hnone tag fun entry hentry heq => htag ⟨entry, hentry, heq⟩
            rw [hnil, hnil']
        rw [hgiven.find?_forced hfield, hlowered.find?_forced hfield',
          ← hgiven.forcedAttributes_eq hfield, ← hlowered.forcedAttributes_eq hfield', hsame]

/-- Where neither the table of elements nor the removed ones are given, all that Packagist allows
stays allowed. -/
theorem allowsElement_overridden_of_packagist (helements : p.elements = none)
    (hremoved : p.removedWithContent = none) {tag : String}
    (h : Policy.packagist.allowsElement tag = true) : p.overridden.allowsElement tag = true := by
  have hdescribes := p.describes_overridden
  have hstays : p.overridden.removesWithContent tag = false := by
    rw [Policy.removesWithContent, hdescribes.removed, hremoved]
    exact (Policy.wellFormed_ofSteps Policy.packagistSteps).exclusive tag h
  rw [hdescribes.allowed, hstays, helements, baseHasTag, h]
  rfl

theorem exists_toPolicy_lowered_of_packagist (h : p.DistinctNames) (helements : p.elements = none)
    (hremoved : p.removedWithContent = none) (hfaults : p.faults = [])
    (htags : ∀ table ∈ p.forcedAttributes, ∀ tag ∈ table.keys,
      Policy.packagist.allowsElement tag.toLower = true) :
    ∃ policy, p.lowered.toPolicy = .ok policy := by
  refine exists_toPolicy_iff.2 ⟨(faults_lowered_eq_nil_iff h).2 hfaults, ?_⟩
  refine (disallowedForced?_lowered_eq_none_iff h).2 fun table htable tag htag => ?_
  exact allowsElement_overridden_of_packagist helements hremoved (htags table htable tag htag)

/-- **Names are taken in any letter case,** but for the tables of forced attributes. Where no two
keys of a table differ only in case, overrides in lower case make the same policy, with the forced
attributes of a tag in another order perhaps. The overrides as they are written are accepted as well
exactly if the tags with forced attributes are in lower case, and the policies are equal exactly if
the names of the forced attributes keep their order. -/
theorem toPolicy_lowered (h : p.DistinctNames) :
    ((∃ policy, p.toPolicy = .ok policy) ↔
        (∃ policy, p.lowered.toPolicy = .ok policy) ∧ p.LowersForcedTags) ∧
      ∀ policy policy', p.toPolicy = .ok policy → p.lowered.toPolicy = .ok policy' →
        policy' = { policy with forced := policy'.forced } ∧
          (∀ tag, (policy'.forcedAttributes tag).Perm (policy.forcedAttributes tag)) ∧
          (policy' = policy ↔ p.OrdersForcedNames) := by
  refine ⟨exists_toPolicy_iff_lowered h, fun policy policy' hok hok' => ?_⟩
  obtain ⟨-, -, hpolicy⟩ := toPolicy_eq_ok_iff.1 hok
  obtain ⟨-, -, hpolicy'⟩ := toPolicy_eq_ok_iff.1 hok'
  have hgiven : p.Describes policy := hpolicy ▸ p.describes_overridden
  have hlowered : p.lowered.Describes policy' := hpolicy' ▸ p.lowered.describes_overridden
  have hsame : policy' = { policy with forced := policy'.forced } :=
    hgiven.eq_lowered h hlowered
  refine ⟨hsame, perm_forcedAttributes_lowered h hgiven hlowered, ?_⟩
  rw [← forced_lowered_eq_iff h hgiven hlowered]
  refine ⟨fun heq => heq ▸ rfl, fun hforced => ?_⟩
  rw [hsame, hforced]

/-- Upper case in an element and in an attribute that is forced, whose name comes first for that. -/
theorem toPolicy_lowered_spelled :
    let forced : NameMap String := (NameMap.empty.insert "rel" "x").insert "TITLE" "y"
    let table : NameMap (NameMap String) := NameMap.empty.insert "a" forced
    let p : PolicyOverrides := {
      extraElements := NameMap.empty.insert "DIV" ["ID"]
      forcedAttributes := some table }
    p.DistinctNames ∧ ∃ policy policy', p.toPolicy = .ok policy ∧ p.lowered.toPolicy = .ok policy' ∧
      policy' ≠ policy ∧ policy' = { policy with forced := policy'.forced } ∧
      (policy'.forcedAttributes "a").Perm (policy.forcedAttributes "a") := by
  intro forced table p
  have hdistinct : p.DistinctNames := {
    elements := nofun
    extraElements := by decide +kernel
    forcedTags := by
      rintro given ⟨⟩
      decide +kernel
    forcedNames := by
      rintro given ⟨⟩
      decide +kernel }
  have haccepted : ∃ policy', p.lowered.toPolicy = .ok policy' := by
    refine exists_toPolicy_lowered_of_packagist hdistinct rfl rfl (by decide +kernel) ?_
    rintro given ⟨⟩ tag htag
    have htag' : tag = "a" := List.mem_singleton.1 htag
    rw [htag']
    decide +kernel
  have hlower : p.LowersForcedTags := by
    rintro given ⟨⟩ tag htag
    have htag' : tag = "a" := List.mem_singleton.1 htag
    rw [htag']
    simp [IsLowered]
  -- Capitals come first, so `TITLE` is in front of `rel`, and `title` is not.
  have hmoved : ¬p.OrdersForcedNames := by
    intro horders
    have hordered := horders _ rfl ("a", forced) (List.mem_singleton.2 rfl)
    revert hordered
    decide +kernel
  obtain ⟨haccept, hsame⟩ := toPolicy_lowered hdistinct
  obtain ⟨policy', hok'⟩ := haccepted
  obtain ⟨policy, hok⟩ := haccept.2 ⟨⟨policy', hok'⟩, hlower⟩
  obtain ⟨hrest, hperm, hequal⟩ := hsame policy policy' hok hok'
  exact ⟨hdistinct, policy, policy', hok, hok', fun heq => hmoved (hequal.1 heq), hrest, hperm "a"⟩

/-- A tag in upper case is refused in a table of forced attributes only. -/
theorem not_toPolicy_lowered :
    ¬∀ p : PolicyOverrides, p.DistinctNames →
      ((∃ policy, p.toPolicy = .ok policy) ↔ ∃ policy, p.lowered.toPolicy = .ok policy) ∧
        ∀ policy policy', p.toPolicy = .ok policy → p.lowered.toPolicy = .ok policy' →
          policy' = policy := by
  intro hsame
  let table : NameMap (NameMap String) :=
    NameMap.empty.insert "A" (NameMap.empty.insert "rel" "x")
  let p : PolicyOverrides := { forcedAttributes := some table }
  have hdistinct : p.DistinctNames := {
    elements := nofun
    extraElements := by decide +kernel
    forcedTags := by
      rintro given ⟨⟩
      decide +kernel
    forcedNames := by
      rintro given ⟨⟩
      decide +kernel }
  have haccepted : ∃ policy', p.lowered.toPolicy = .ok policy' := by
    refine exists_toPolicy_lowered_of_packagist hdistinct rfl rfl (by decide +kernel) ?_
    rintro given ⟨⟩ tag htag
    have htag' : tag.toLower = "a" := by
      rw [List.mem_singleton.1 htag]
      decide +kernel
    rw [htag']
    decide +kernel
  have hgiven := (hsame p hdistinct).1.2 haccepted
  have hlower : p.LowersForcedTags := ((exists_toPolicy_iff_lowered hdistinct).1 hgiven).2
  have htag : IsLowered "A" := hlower _ rfl "A" (List.mem_singleton.2 rfl)
  exact absurd (htag 'A' (by simp)) (by decide)

end PolicyOverrides

end SafeReadme
