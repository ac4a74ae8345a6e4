import SafeReadme.Proofs.Policy.Built
import SafeReadme.Proofs.Sanitize.UrlFilter
import SafeReadme.Proofs.Sanitize.Walk

/-!
# What a walk leaves as it is

An element is settled if a walk finds nothing to change about it. A walk keeps settled elements only,
so a second walk over what it keeps drops nothing and changes nothing.
-/

namespace SafeReadme.Sanitizer

open Html

/-- An element that a walk leaves as it is. -/
structure Settled (s : Sanitizer) (e : Element) : Prop where
  allowed : s.policy.allowsElement e.tag = true
  notRemoved : s.policy.removesWithContent e.tag = false
  distinct : (names e.attributes).Nodup
  passes : ∀ a ∈ e.attributes, s.Passes e.tag a a.value
  complete : ∀ forced ∈ s.policy.forcedAttributes e.tag, forced.1 ∈ names e.attributes
  hasSource : Rule.requiresSource e.tag = true → "src" ∈ names e.attributes

/-! ## Walking settled elements -/

theorem walkSource_of_passes {s : Sanitizer} {tag : String} {seen : List String}
    {source : List Attribute} (hdistinct : (names source).Nodup)
    (hnew : ∀ a ∈ source, a.name ∉ seen) (hpasses : ∀ a ∈ source, s.Passes tag a a.value) :
    s.walkSource tag seen source = ⟨source, []⟩ := by
  induction source generalizing seen with
  | nil => rfl
  | cons a rest ih =>
      obtain ⟨hfirst, hrest⟩ := List.nodup_cons.1 hdistinct
      have hnew' : ∀ b ∈ rest, b.name ∉ a.name :: seen := by
        intro b hb hmem
        rcases List.mem_cons.1 hmem with heq | hmem
        · exact hfirst (mem_names.2 ⟨b, hb, heq⟩)
        · exact hnew b (List.mem_cons_of_mem _ hb) hmem
      rw [walkSource, walkAttribute_of_passes (hnew a (by simp)) (hpasses a (by simp)),
        ih hrest hnew' fun b hb => hpasses b (List.mem_cons_of_mem _ hb)]
      rfl

theorem Settled.walkAttributes_eq {s : Sanitizer} {e : Element} (h : s.Settled e) :
    s.walkAttributes e.tag e.attributes = ⟨e.attributes, []⟩ := by
  have hmissing : s.missingForced e.tag e.attributes = [] := by
    rw [List.eq_nil_iff_forall_not_mem]
    intro b hb
    obtain ⟨hforced, hnot⟩ := mem_missingForced.1 hb
    exact hnot (h.complete _ hforced)
  rw [walkAttributes, walkSource_of_passes h.distinct (by simp) h.passes, hmissing]
  show (⟨e.attributes ++ [], [] ++ []⟩ : Walked Attribute) = _
  rw [List.append_nil, List.append_nil]

mutual

theorem walkNode_of_settled {s : Sanitizer} :
    ∀ node, (∀ e ∈ Node.elements node, s.Settled e) → s.walkNode node = ⟨[node], []⟩
  | .text content, _ => by
      rw [walkNode]
      rfl
  | .element tag attributes children, h => by
      rw [elements_element] at h
      have hself : s.Settled ⟨tag, attributes⟩ := h _ (by simp)
      have hinner := walkForest_of_settled children fun e he => h e (List.mem_cons_of_mem _ he)
      have hattributes := hself.walkAttributes_eq
      have hsource : Rule.requiresSource tag = true →
          "src" ∈ names (s.walkAttributes tag attributes).kept := by
        rw [hattributes]
        exact hself.hasSource
      rw [walkNode_of_allowed hself.notRemoved hself.allowed hsource, hattributes, hinner]
      rfl

theorem walkForest_of_settled {s : Sanitizer} :
    ∀ nodes, (∀ e ∈ elements nodes, s.Settled e) → s.walkForest nodes = ⟨nodes, []⟩
  | [], _ => by
      rw [walkForest]
      rfl
  | node :: rest, h => by
      rw [elements_cons] at h
      rw [walkForest, walkNode_of_settled node fun e he => h e (List.mem_append_left _ he),
        walkForest_of_settled rest fun e he => h e (List.mem_append_right _ he)]
      rfl

end

/-! ## A walk settles -/

theorem passes_of_mem_walkAttributes {s : Sanitizer} {tag : String} {source : List Attribute}
    {a : Attribute} (hmade : ∀ r ∈ s.coordinate, r.Made)
    (hnodup : ((s.policy.forcedAttributes tag).map Prod.fst).Nodup)
    (ha : a ∈ (s.walkAttributes tag source).kept) : s.Passes tag a a.value := by
  rw [kept_walkAttributes, List.mem_append] at ha
  rcases ha with ha | ha
  · obtain ⟨-, b, -, hname, hpasses⟩ := mem_kept_walkSource ha
    rw [Passes, hname] at hpasses
    exact hpasses.imp_right fun ⟨hfree, hallowed, hvalue⟩ =>
      ⟨hfree, hallowed, Rule.apply_forAttribute_idempotent hmade hvalue⟩
  · exact .inl (lookup_eq_some_of_mem hnodup (mem_missingForced.1 ha).1)

theorem Keeps.settled {s : Sanitizer} {e : Element} (h : s.Keeps e)
    (hmade : ∀ r ∈ s.coordinate, r.Made)
    (hnodup : ((s.policy.forcedAttributes e.tag).map Prod.fst).Nodup) : s.Settled e := by
  obtain ⟨source, hfiltered⟩ := h.filtered
  exact {
    allowed := h.allowed
    notRemoved := h.notRemoved
    distinct := by
      rw [hfiltered]
      exact nodup_names_walkAttributes source hnodup
    passes := fun a ha => by
      rw [hfiltered] at ha
      exact passes_of_mem_walkAttributes hmade hnodup ha
    complete := fun forced hforced => by
      rw [hfiltered]
      exact mem_names.2 ⟨_, forced_mem_walkAttributes source hnodup hforced, rfl⟩
    hasSource := h.hasSource }

/-! ## Walking twice -/

/-- **The walk is a projection.** Under every policy that can be built, with or without a repository,
a second walk over what the first one keeps keeps all of it and drops nothing. -/
theorem walkForest_idempotent (steps : List Step) (coordinate : Option Coordinate)
    (hmade : ∀ r ∈ coordinate, r.Made) (nodes : List Node) :
    let s : Sanitizer := ⟨.ofSteps steps, coordinate⟩
    s.walkForest (s.walkForest nodes).kept = ⟨(s.walkForest nodes).kept, []⟩ := by
  intro s
  apply walkForest_of_settled
  intro e he
  exact (keeps_of_mem_walkForest s nodes e he).settled hmade
    (Policy.forcedAttributes_ofSteps_nodup steps e.tag)

/-- A path that is resolved, an address without a scheme, a value that a browser reads without its
blanks, and a forced attribute that comes last at first. -/
theorem walkForest_idempotent_rewritten :
    let coordinate : Coordinate := ⟨"github.com", "o/r", ["docs"]⟩
    let s : Sanitizer := ⟨.ofSteps Policy.packagistSteps, some coordinate⟩
    let kept := (s.walkForest [.element "div" [] [.element "a" [⟨"href", " ../a b\n"⟩] [],
      .element "img" [⟨"src", "//h/x"⟩, ⟨"src", "y"⟩] [], .element "img" [] []]]).kept
    coordinate.Made ∧
      write kept = "<a href=\"https://raw.githubusercontent.com/o/r/HEAD/a%20b\" rel=\"" ++
        Policy.linkRelation ++ "\"></a><img src=\"https://h/x\" />" ∧
      s.walkForest kept = ⟨kept, []⟩ := by
  intro coordinate s kept
  have hmade : coordinate.Made := ⟨"github.com", "o/r", "docs", eq_ok_of_toOption (by decide +kernel)⟩
  have hcoordinate : ∀ r ∈ some coordinate, r.Made := by
    rintro r ⟨⟩
    exact hmade
  exact ⟨hmade, by decide +kernel, walkForest_idempotent Policy.packagistSteps _ hcoordinate _⟩

end SafeReadme.Sanitizer
