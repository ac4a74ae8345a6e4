import SafeReadme.Proofs.Html.OneTag
import SafeReadme.Proofs.Html.Tree.AttributeNames
import SafeReadme.Proofs.Policy.Equality
import SafeReadme.Proofs.Policy.WellFormed
import SafeReadme.Proofs.Sanitize.Accounting
import SafeReadme.Proofs.Sanitize.UrlFilter

/-!
# Attributes that are granted

A policy names attributes in lower case, and the walk looks them up as the tree has them. HTML
elements have them in lower case whatever the document says, so a grant takes effect there. SVG and
MathML write some names with capitals, and an attribute of such a name is dropped in spite of its
grant.
-/

namespace SafeReadme

open Html

theorem Splits.exists_of_mem {α β γ : Type} {R : α → β → Prop} {S : α → γ → Prop} {as : List α}
    {bs : List β} {cs : List γ} (h : Splits R S as bs cs) :
    ∀ a ∈ as, (∃ b ∈ bs, R a b) ∨ ∃ c ∈ cs, S a c := by
  induction h with
  | nil => simp
  | left hR _ ih =>
      refine List.forall_mem_cons.2 ⟨.inl ⟨_, List.mem_cons_self, hR⟩, fun a ha => ?_⟩
      obtain ⟨b, hb, hR⟩ | hright := ih a ha
      · exact .inl ⟨b, List.mem_cons_of_mem _ hb, hR⟩
      · exact .inr hright
  | right hS _ ih =>
      refine List.forall_mem_cons.2 ⟨.inr ⟨_, List.mem_cons_self, hS⟩, fun a ha => ?_⟩
      obtain hleft | ⟨c, hc, hS⟩ := ih a ha
      · exact .inl hleft
      · exact .inr ⟨c, List.mem_cons_of_mem _ hc, hS⟩

namespace Sanitizer

variable {s : Sanitizer}

/-! ## The walk at one attribute -/

/-- What the walk makes of the attribute `b` of an element that has `before` in front of it. -/
def walkBehind (s : Sanitizer) (tag : String) (before : List Attribute) (b : Attribute) :
    Walked Attribute :=
  s.walkAttribute tag (names before).reverse b

/-- What the walk makes of the attributes in front of one, of this one, and of the others. -/
theorem walkAttributes_split (tag : String) (before : List Attribute) (b : Attribute)
    (after : List Attribute) :
    s.walkAttributes tag (before ++ b :: after) =
      s.walkSource tag [] before ++ s.walkBehind tag before b ++
        (s.walkSource tag (names (before ++ [b])).reverse after ++
          ⟨s.missingForced tag (before ++ b :: after), []⟩) := by
  rw [walkAttributes, walkSource_append, walkSource, List.append_nil, walkBehind]
  simp [Walked.append_assoc, names]

/-! ## Where a grant takes effect -/

/-- The policy grants the attribute `a` of `e`, which has it first as `b`, in any letter case. The
value holds no URL that is filtered, and none is forced in its place. -/
structure Grants (s : Sanitizer) (e : Element) (a : String) (before : List Attribute)
    (b : Attribute) (after : List Attribute) : Prop where
  allowed : s.policy.allowsAttribute e.tag a = true
  unfiltered : Rule.urlClass e.tag a = none
  free : a ∉ (s.policy.forcedAttributes e.tag).map Prod.fst
  source : e.attributes = before ++ b :: after
  name : b.name.toLower = a
  first : ∀ c ∈ before, c.name.toLower ≠ a

variable {e : Element} {a : String} {before after : List Attribute} {b : Attribute}

theorem Grants.not_mem (h : s.Grants e a before b after) : b.name ∉ (names before).reverse := by
  intro hseen
  obtain ⟨c, hc, hname⟩ := mem_names.1 (List.mem_reverse.1 hseen)
  exact h.first c hc (hname ▸ h.name)

/-- An attribute whose name is written as it is granted stays as it is. -/
theorem Grants.keeps (h : s.Grants e a before b after) (hname : IsLowered b.name) :
    s.walkBehind e.tag before b = .keep b := by
  have heq : b.name = a := hname.toLower_eq ▸ h.name
  have hpasses : s.Passes e.tag b b.value := by
    right
    rw [heq]
    refine ⟨lookup_eq_none_of_not_mem h.free, h.allowed, ?_⟩
    rw [Rule.forAttribute, h.unfiltered]
    rfl
  exact walkAttribute_of_passes h.not_mem hpasses

/-- A name with capitals is none of a policy, so its attribute is dropped. -/
theorem walkAttribute_of_not_isLowered (hspells : s.policy.Spells IsLowered) (tag : String)
    {seen : List String} (hnew : b.name ∉ seen) (hname : ¬IsLowered b.name) :
    s.walkAttribute tag seen b = .drop (.attr tag b.name .disallowedAttribute) := by
  have hseen : seen.contains b.name = false := by simpa using hnew
  have hforced : (s.policy.forcedAttributes tag).lookup b.name = none :=
    lookup_eq_none_of_not_mem fun hforced => hname (hspells.forcedName hforced)
  have hallowed : s.policy.allowsAttribute tag b.name = false :=
    Bool.eq_false_iff.2 fun hallowed => hname (hspells.attribute hallowed)
  rw [walkAttribute, hseen, hforced, hallowed]
  rfl

theorem mem_elements_of_visited {nodes : List Node}
    (hvisited : .element e ∈ visits s.dropsContent nodes) (hkept : s.dropReason? e = none) :
    ⟨e.tag, (s.walkAttributes e.tag e.attributes).kept⟩ ∈ elements (s.walkForest nodes).kept := by
  rcases (s.accounts_walkForest nodes).visits.exists_of_mem _ hvisited with
    ⟨kept, hmem, -, rfl⟩ | ⟨d, -, reason, hreason, -⟩
  · exact element_mem_allVisits.1 hmem
  · rw [hkept] at hreason
    cases hreason

theorem attributeDrops_of_kept (hkept : s.dropReason? e = none) :
    s.attributeDrops e = (s.walkAttributes e.tag e.attributes).drops := by
  have hfilters : s.filters e = true := by
    unfold dropReason? at hkept
    split at hkept
    · cases hkept
    next hremoved =>
      split at hkept
      · cases hkept
      next hallowed =>
        have hallowed' : s.policy.allowsElement e.tag = true := by simpa using hallowed
        have hstays : s.policy.removesWithContent e.tag = false := by simpa using hremoved
        rw [filters, hallowed', hstays]
        rfl
  rw [attributeDrops, if_pos hfilters]

theorem dropReason?_of_allowed (hwell : s.policy.WellFormed)
    (hallowed : s.policy.allowsElement e.tag = true) (hsource : Rule.requiresSource e.tag = false) :
    s.dropReason? e = none := by
  rw [dropReason?, hwell.exclusive _ hallowed, hallowed, hsource]
  rfl

theorem sanitize_element {html tag : String} {attributes : List Attribute} {children : List Node}
    (hread : read? html = some [.element tag attributes children])
    (hlength : html.utf8ByteSize ≤ s.policy.maxInputLength) (hwell : s.policy.WellFormed)
    (hallowed : s.policy.allowsElement tag = true) (hsource : Rule.requiresSource tag = false) :
    s.sanitize html = .ok
      ⟨write [.element tag (s.walkAttributes tag attributes).kept (s.walkForest children).kept],
        ⟨(s.walkAttributes tag attributes).drops ++ (s.walkForest children).drops⟩⟩ := by
  have hnode := @walkNode_of_allowed s tag attributes (hwell.exclusive tag hallowed) hallowed
    (by simp [hsource]) children
  rw [sanitize, readWithin, if_neg (Nat.not_lt.2 hlength), hread, Except.map, sanitizeNodes,
    walkForest, hnode, walkForest]
  simp

/-- **A grant takes effect unless a vocabulary writes the name with capitals.** On an element that
stays, the first attribute of a granted name, in any letter case, is kept as it is and not reported
exactly if its name in the tree is none that is written with capitals. Otherwise it is dropped as
one that is not allowed. -/
theorem keeps_granted_iff {steps : List Step} (hpolicy : s.policy = .ofSteps steps) {html : String}
    {r : Rendered} (h : s.sanitize html = .ok r) :
    ∃ nodes, read? html = some nodes ∧ r = s.sanitizeNodes nodes ∧
      r.report.attributes =
        ((visits s.dropsContent nodes).filterMap Visit.element?).flatMap s.attributeDrops ∧
      ∀ e, .element e ∈ visits s.dropsContent nodes → s.dropReason? e = none →
        ⟨e.tag, (s.walkAttributes e.tag e.attributes).kept⟩ ∈ elements (s.walkForest nodes).kept ∧
          s.attributeDrops e = (s.walkAttributes e.tag e.attributes).drops ∧
          ∀ a before b after, s.Grants e a before b after →
            s.walkAttributes e.tag e.attributes =
                s.walkSource e.tag [] before ++ s.walkBehind e.tag before b ++
                  (s.walkSource e.tag (names (before ++ [b])).reverse after ++
                    ⟨s.missingForced e.tag e.attributes, []⟩) ∧
              (s.walkBehind e.tag before b = .keep b ↔ b.name ∉ capitalNames) ∧
              (b.name ∈ capitalNames →
                s.walkBehind e.tag before b =
                  .drop (.attr e.tag b.name .disallowedAttribute)) := by
  obtain ⟨nodes, hread, rfl⟩ := exists_read_of_sanitize h
  refine ⟨nodes, hread, rfl, (s.accounts_walkForest nodes).attributes, ?_⟩
  intro e hvisited hkept
  refine ⟨mem_elements_of_visited hvisited hkept, attributeDrops_of_kept hkept, ?_⟩
  intro a before b after hgrants
  have hspells : s.policy.Spells IsLowered := hpolicy ▸ (Policy.wellFormed_ofSteps steps).names
  have hdrops : b.name ∈ capitalNames → s.walkBehind e.tag before b =
      .drop (.attr e.tag b.name .disallowedAttribute) :=
    fun hcapital => walkAttribute_of_not_isLowered hspells e.tag hgrants.not_mem
      (not_isLowered_of_mem_capitalNames hcapital)
  refine ⟨?_, ⟨fun hkeep hcapital => ?_, fun hplain => ?_⟩, hdrops⟩
  · rw [hgrants.source]
    exact walkAttributes_split _ _ _ _
  · have hnone := congrArg Walked.kept ((hdrops hcapital).symm.trans hkeep)
    cases hnone
  · -- A visited element is one of the tree, where no other names have capitals.
    have hmem : e ∈ elements nodes :=
      element_mem_allVisits.1 ((sublist_visits s.dropsContent nodes).subset hvisited)
    have hb : b ∈ e.attributes := by
      rw [hgrants.source]
      simp
    rcases allSpelled_of_read? hread e hmem b hb with hlowered | hcapital
    · exact hgrants.keeps hlowered
    · exact absurd hcapital hplain

/-- In MathML, `DISPLAY` stays as it is granted, and `definitionurl` is dropped. -/
theorem keeps_granted_iff_embedded :
    let s : Sanitizer := ⟨.ofSteps [.allowElement "math" ["display", "definitionURL"]], none⟩
    let display : Attribute := ⟨"display", "block"⟩
    let url : Attribute := ⟨"definitionURL", "u"⟩
    let e : Element := ⟨"math", [display, url]⟩
    s.sanitize "<math DISPLAY=block definitionurl=u>x" =
        .ok ⟨"<math display=\"block\">x</math>",
          ⟨[.attr "math" "definitionURL" .disallowedAttribute]⟩⟩ ∧
      s.Grants e "display" [] display [url] ∧ s.Grants e "definitionurl" [display] url [] ∧
      s.walkBehind "math" [] display = .keep display ∧
      s.walkBehind "math" [display] url =
        .drop (.attr "math" "definitionURL" .disallowedAttribute) := by
  intro s display url e
  have hwell : s.policy.WellFormed := Policy.wellFormed_ofSteps _
  have hallowed : s.policy.allowsElement "math" = true := by decide +kernel
  have hnodes : read? "<math DISPLAY=block definitionurl=u>x" =
      some [.element "math" e.attributes [.text "x"]] := by decide +kernel
  have hsanitize : s.sanitize "<math DISPLAY=block definitionurl=u>x" =
      .ok ⟨"<math display=\"block\">x</math>",
        ⟨[.attr "math" "definitionURL" .disallowedAttribute]⟩⟩ := by
    have hkept : (s.walkAttributes "math" e.attributes).kept = [display] := by decide +kernel
    have hdrops : (s.walkAttributes "math" e.attributes).drops =
        [.attr "math" "definitionURL" .disallowedAttribute] := by decide +kernel
    rw [sanitize_element hnodes (by decide) hwell hallowed (by decide), hkept, hdrops]
    exact congrArg Except.ok (by decide +kernel)
  have hfirst : s.Grants e "display" [] display [url] :=
    ⟨by decide +kernel, by decide, by decide +kernel, rfl, by decide +kernel, by simp⟩
  have hsecond : s.Grants e "definitionurl" [display] url [] :=
    ⟨by decide +kernel, by decide, by decide +kernel, rfl, by decide +kernel, by decide +kernel⟩
  obtain ⟨nodes, hread, -, -, hkept⟩ := keeps_granted_iff rfl hsanitize
  cases hnodes.symm.trans hread
  have hstays : s.dropReason? e = none := dropReason?_of_allowed hwell hallowed (by decide)
  obtain ⟨-, -, hgranted⟩ := hkept e (by simp [e]) hstays
  exact ⟨hsanitize, hfirst, hsecond, (hgranted _ _ _ _ hfirst).2.1.2 (by decide),
    (hgranted _ _ _ _ hsecond).2.2 (by decide)⟩

/-- A granted attribute that SVG writes with a capital is dropped, however the document has it. -/
theorem not_keeps_granted_viewBox :
    let s : Sanitizer := ⟨.ofSteps [.allowElement "svg" ["viewBox"]], none⟩
    let b : Attribute := ⟨"viewBox", "0 0 1 1"⟩
    let e : Element := ⟨"svg", [b]⟩
    ∃ nodes, read? "<svg viewBox=\"0 0 1 1\">x</svg>" = some nodes ∧
      .element e ∈ visits s.dropsContent nodes ∧ s.dropReason? e = none ∧
      s.Grants e "viewbox" [] b [] ∧ s.walkBehind "svg" [] b ≠ .keep b ∧
      s.sanitize "<svg viewBox=\"0 0 1 1\">x</svg>" =
        .ok ⟨"<svg>x</svg>", ⟨[.attr "svg" "viewBox" .disallowedAttribute]⟩⟩ := by
  intro s b e
  have hwell : s.policy.WellFormed := Policy.wellFormed_ofSteps _
  have hallowed : s.policy.allowsElement "svg" = true := by decide +kernel
  have hread : read? "<svg viewBox=\"0 0 1 1\">x</svg>" =
      some [.element "svg" e.attributes [.text "x"]] := by decide +kernel
  have hsanitize : s.sanitize "<svg viewBox=\"0 0 1 1\">x</svg>" =
      .ok ⟨"<svg>x</svg>", ⟨[.attr "svg" "viewBox" .disallowedAttribute]⟩⟩ := by
    have hkept : (s.walkAttributes "svg" e.attributes).kept = [] := by decide +kernel
    have hdrops : (s.walkAttributes "svg" e.attributes).drops =
        [.attr "svg" "viewBox" .disallowedAttribute] := by decide +kernel
    rw [sanitize_element hread (by decide) hwell hallowed (by decide), hkept, hdrops]
    exact congrArg Except.ok (by decide +kernel)
  have hgrants : s.Grants e "viewbox" [] b [] :=
    ⟨by decide +kernel, by decide, by decide +kernel, rfl, by decide +kernel, by simp⟩
  have hdropped : s.walkBehind "svg" [] b = .drop (.attr "svg" "viewBox" .disallowedAttribute) :=
    walkAttribute_of_not_isLowered hwell.names _ hgrants.not_mem
      (not_isLowered_of_mem_capitalNames (by decide))
  refine ⟨_, hread, by simp [e], dropReason?_of_allowed hwell hallowed (by decide), hgrants, ?_,
    hsanitize⟩
  rw [hdropped]
  exact fun heq => by cases congrArg Walked.kept heq

/-! ## Where a grant is lost -/

theorem isLowered_of_isPlainName {name : String} (h : isPlainName name = true) :
    IsLowered name := by
  intro c hc
  have hrange := toNat_of_isPlainChar (plain_of_isPlainName h c hc)
  rw [← Bool.not_eq_true, Text.isUpper_iff]
  omega

/-- **No grant of such a name takes effect everywhere.** In a document of one start tag the
attribute is dropped. -/
theorem exists_dropped_of_capital {steps : List Step} (hpolicy : s.policy = .ofSteps steps)
    {vocabulary : Vocabulary} {name : String} (hname : isPlainName name = true)
    (hcapital : attributeSpelling vocabulary name ∈ capitalNames)
    (hallowed : s.policy.allowsAttribute vocabulary.root name = true) :
    let html := String.ofList (Piece.opening vocabulary.root [⟨name, ""⟩]).chars
    html.utf8ByteSize ≤ s.policy.maxInputLength →
      ∃ r, s.sanitize html = .ok r ∧ r.report.drops =
        [.attr vocabulary.root (attributeSpelling vocabulary name) .disallowedAttribute] := by
  intro html hlength
  have hembedded : vocabulary ≠ .html := by
    rintro rfl
    exact not_isLowered_of_mem_capitalNames hcapital (isLowered_of_isPlainName hname)
  have hwell : s.policy.WellFormed := hpolicy ▸ Policy.wellFormed_ofSteps steps
  have hroot : s.policy.allowsElement vocabulary.root = true := by
    rw [Policy.allowsAttribute_eq] at hallowed
    exact (Bool.and_eq_true_iff.1 hallowed).1
  have hsource : Rule.requiresSource vocabulary.root = false := by
    cases vocabulary <;> decide
  let b : Attribute := ⟨attributeSpelling vocabulary name, ""⟩
  have hdrop : s.walkAttribute vocabulary.root [] b =
      .drop (.attr vocabulary.root b.name .disallowedAttribute) :=
    walkAttribute_of_not_isLowered hwell.names _ (List.not_mem_nil)
      (not_isLowered_of_mem_capitalNames hcapital)
  refine ⟨_, sanitize_element (read?_root hembedded hname) hlength hwell hroot hsource, ?_⟩
  rw [drops_walkAttributes, walkSource, hdrop, walkSource, walkForest]
  rfl

end Sanitizer

end SafeReadme
