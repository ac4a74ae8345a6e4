import SafeReadme.Proofs.Policy.Built
import SafeReadme.Proofs.Sanitize.Walk

/-!
# The allowlist holds of the output

`Policy.Permits` says what a policy lets stand in a document, without a word on how it gets there.
Everything that a walk keeps is permitted, under every policy that can be built: the walk may splice
children into the place of their parent and write forced attributes in two places, but each element
that it keeps went through the same filter.
-/

namespace SafeReadme

open Html

/-- What a policy lets stand in a document. -/
structure Policy.Permits (p : Policy) (e : Element) : Prop where
  allowed : p.allowsElement e.tag = true
  notRemoved : p.removesWithContent e.tag = false
  distinct : (names e.attributes).Nodup
  /-- A forced attribute stands there once, with the forced value. -/
  forced : ∀ name value, (name, value) ∈ p.forcedAttributes e.tag →
    e.attributes.filter (fun a => a.name == name) = [⟨name, value⟩]
  /-- Other attributes are allowed on the element or on every element. -/
  granted : ∀ a ∈ e.attributes, a.name ∉ (p.forcedAttributes e.tag).map Prod.fst →
    p.allowsAttribute e.tag a.name = true
  /-- An image has something to show. -/
  source : e.tag = "img" → ∃ a ∈ e.attributes, a.name = "src"

namespace Sanitizer

theorem allowsAttribute_of_mem_walkAttributes {s : Sanitizer} {tag : String}
    {source : List Attribute} {a : Attribute} (ha : a ∈ (s.walkAttributes tag source).kept)
    (hfree : a.name ∉ (s.policy.forcedAttributes tag).map Prod.fst) :
    s.policy.allowsAttribute tag a.name = true := by
  rw [kept_walkAttributes, List.mem_append] at ha
  rcases ha with ha | ha
  · obtain ⟨-, b, -, hname, hpasses⟩ := mem_kept_walkSource ha
    rcases hpasses with hforced | ⟨-, hallowed, -⟩
    · have hmem := List.mem_map_of_mem (f := Prod.fst) (mem_of_lookup_eq_some hforced)
      rw [hname] at hmem
      exact absurd hmem hfree
    · rwa [hname] at hallowed
  · exact absurd (List.mem_map_of_mem (f := Prod.fst) (mem_missingForced.1 ha).1) hfree

theorem Keeps.permits {s : Sanitizer} {e : Element} (h : s.Keeps e)
    (hnodup : ((s.policy.forcedAttributes e.tag).map Prod.fst).Nodup) :
    s.policy.Permits e := by
  obtain ⟨source, hfiltered⟩ := h.filtered
  have hdistinct : (names e.attributes).Nodup := by
    rw [hfiltered]
    exact nodup_names_walkAttributes source hnodup
  exact {
    allowed := h.allowed
    notRemoved := h.notRemoved
    distinct := hdistinct
    forced := fun name value hforced => by
      have hmem : ⟨name, value⟩ ∈ e.attributes := by
        rw [hfiltered]
        exact forced_mem_walkAttributes source hnodup hforced
      exact filter_name_eq_singleton hdistinct hmem
    granted := fun a ha hfree => by
      rw [hfiltered] at ha
      exact allowsAttribute_of_mem_walkAttributes ha hfree
    source := fun himg => mem_names.1 (h.hasSource (by simp [himg, Rule.requiresSource])) }

/-- **The allowlist is sound.** Whatever forest is walked with a policy that can be built, with or
without a repository, every element that is kept at any depth is permitted. -/
theorem permits_of_mem_walkForest (steps : List Step) (coordinate : Option Coordinate)
    (nodes : List Node) :
    ∀ e ∈ elements (Sanitizer.walkForest ⟨.ofSteps steps, coordinate⟩ nodes).kept,
      (Policy.ofSteps steps).Permits e := by
  intro e he
  exact (keeps_of_mem_walkForest _ nodes e he).permits
    (Policy.forcedAttributes_ofSteps_nodup steps e.tag)

/-- A link deep inside elements that make way, with one attribute written twice, one that is not
allowed and the forced one missing. -/
theorem permits_of_mem_walkForest_link :
    (⟨"a", [⟨"href", "#x"⟩, ⟨"rel", Policy.linkRelation⟩]⟩ : Element) ∈
        elements (Sanitizer.walkForest ⟨.ofSteps Policy.packagistSteps, none⟩
          [.element "div" [] [.element "u" [] [.element "a"
            [⟨"href", "#x"⟩, ⟨"href", "y"⟩, ⟨"title", "z"⟩] []]]]).kept ∧
      (Policy.ofSteps Policy.packagistSteps).Permits
        ⟨"a", [⟨"href", "#x"⟩, ⟨"rel", Policy.linkRelation⟩]⟩ := by
  have hmem : (⟨"a", [⟨"href", "#x"⟩, ⟨"rel", Policy.linkRelation⟩]⟩ : Element) ∈
      elements (Sanitizer.walkForest ⟨Policy.packagist, none⟩
        [.element "div" [] [.element "u" [] [.element "a"
          [⟨"href", "#x"⟩, ⟨"href", "y"⟩, ⟨"title", "z"⟩] []]]]).kept := by
    decide +kernel
  exact ⟨hmem, permits_of_mem_walkForest _ none _ _ hmem⟩

end Sanitizer

end SafeReadme
