import SafeReadme.Proofs.Policy.Built

/-!
# How the names in a policy are spelled

Every tag and every attribute name in a policy was given to some step in some spelling. So what holds
of the given names in lower case holds of all names in the policy.
-/

namespace SafeReadme

def Step.names : Step → List String
  | allowElement tag attributes => tag :: attributes
  | allowAttribute name tags => name :: tags
  | allowGlobalAttribute name => [name]
  | forceAttribute tag name _ => [tag, name]
  | removeWithContent tag => [tag]
  | removedWithContent tags => tags
  | clearElements | clearGlobalAttributes | clearForcedAttributes | allowLinkSchemes _
  | allowMediaSchemes _ | allowRelativeLinks _ | allowRelativeMedia _ | maxInputLength _
  | rebuild => []

def NameMap.Spells (Q : String → Prop) (table : NameMap NameSet) : Prop :=
  ∀ tag names, table.find? tag = some names → Q tag ∧ ∀ name, names.contains name = true → Q name

structure Policy.Spells (Q : String → Prop) (p : Policy) : Prop where
  elements : p.elements.Spells Q
  globals : ∀ name, p.globalAttributes.contains name = true → Q name
  forced : ∀ tag attributes, p.forced.find? tag = some attributes →
    Q tag ∧ ∀ a ∈ attributes, Q a.1
  removed : ∀ tag, p.removesWithContent tag = true → Q tag

/-- All tags and attribute names of a draft satisfy `Q`, those that wait included. -/
structure Draft.Spells (Q : String → Prop) (d : Draft) : Prop where
  policy : d.policy.Spells Q
  granted : d.granted.Spells Q

variable {Q : String → Prop}

namespace NameMap

theorem spells_empty : (empty : NameMap NameSet).Spells Q := by
  intro tag names h
  cases h

theorem Spells.filterKeys {table : NameMap NameSet} (h : table.Spells Q) (p : String → Bool) :
    (table.filterKeys p).Spells Q := by
  intro tag names hfind
  rw [find?_filterKeys] at hfind
  split at hfind
  · exact h tag names hfind
  · cases hfind

theorem Spells.grant {table : NameMap NameSet} (h : table.Spells Q) {tag : String}
    {names : List String} (htag : Q tag.toLower) (hnames : ∀ name ∈ names, Q name.toLower) :
    (Draft.grant table tag names).Spells Q := by
  intro tag' names' hfind
  rw [Draft.grant, find?_alter] at hfind
  split at hfind
  next heq =>
    subst heq
    cases hfind
    refine ⟨htag, fun name hname => ?_⟩
    rw [NameSet.contains_addAll, Bool.or_eq_true, List.contains_iff_mem] at hname
    rcases hname with hname | hname
    · obtain ⟨given, hgiven, rfl⟩ := List.mem_map.1 hname
      exact hnames given hgiven
    · cases hbefore : table.find? tag.toLower with
      | none =>
          rw [hbefore] at hname
          cases hname
      | some before =>
          rw [hbefore] at hname
          exact (h _ _ hbefore).2 name hname
  · exact h tag' names' hfind

theorem Spells.grantAll {table : NameMap NameSet} (h : table.Spells Q) {tags names : List String}
    (htags : ∀ tag ∈ tags, Q tag.toLower) (hnames : ∀ name ∈ names, Q name.toLower) :
    (tags.foldl (fun table tag => Draft.grant table tag names) table).Spells Q := by
  induction tags generalizing table with
  | nil => exact h
  | cons tag rest ih =>
      exact ih (h.grant (htags tag (by simp)) hnames)
        fun t ht => htags t (List.mem_cons_of_mem _ ht)

end NameMap

namespace Policy

variable {p : Policy}

theorem Spells.tag (h : p.Spells Q) {tag : String} (hallowed : p.allowsElement tag = true) :
    Q tag := by
  obtain ⟨attributes, hfind⟩ := Option.isSome_iff_exists.1 hallowed
  exact (h.elements tag attributes hfind).1

theorem Spells.attribute (h : p.Spells Q) {tag name : String}
    (hallowed : p.allowsAttribute tag name = true) : Q name := by
  unfold allowsAttribute at hallowed
  split at hallowed
  · cases hallowed
  next attributes hfind =>
    rcases Bool.or_eq_true_iff.1 hallowed with hown | hglobal
    · exact (h.elements tag attributes hfind).2 name hown
    · exact h.globals name hglobal

theorem Spells.forcedName (h : p.Spells Q) {tag name : String}
    (hforced : name ∈ (p.forcedAttributes tag).map Prod.fst) : Q name := by
  rw [forcedAttributes] at hforced
  cases hfind : p.forced.find? tag with
  | none =>
      rw [hfind] at hforced
      cases hforced
  | some attributes =>
      rw [hfind] at hforced
      obtain ⟨a, ha, rfl⟩ := List.mem_map.1 hforced
      exact (h.forced tag attributes hfind).2 a ha

end Policy

namespace Draft

theorem Spells.finish {d : Draft} (h : d.Spells Q) : d.finish.Spells Q where
  elements := by
    apply NameMap.Spells.filterKeys
    intro tag names hfind
    rw [NameMap.find?_mapValues, Option.map_eq_some_iff] at hfind
    obtain ⟨own, hown, rfl⟩ := hfind
    have hspells := h.policy.elements tag own hown
    refine ⟨hspells.1, fun name hname => ?_⟩
    split at hname
    next more hmore =>
      rw [NameSet.contains_union, Bool.or_eq_true] at hname
      exact hname.elim (hspells.2 name) ((h.granted tag more hmore).2 name)
    · exact hspells.2 name hname
  globals := h.policy.globals
  forced := h.policy.forced
  removed := h.policy.removed

theorem spells_toDraft {p : Policy} (h : p.Spells Q) : p.toDraft.Spells Q :=
  ⟨h, NameMap.spells_empty⟩

theorem mem_setLast {name value : String} {attributes : List (String × String)}
    {a : String × String} (h : a ∈ setLast name value attributes) :
    a ∈ attributes ∨ a = (name, value) := by
  rw [setLast, List.mem_append, List.mem_filter, List.mem_singleton] at h
  exact h.imp_left And.left

theorem spells_force {p : Policy} (h : p.Spells Q) {tag name : String} (htag : Q tag.toLower)
    (hname : Q name.toLower) (value : String) : ∀ k attributes,
      (p.forced.alter tag.toLower fun attributes? =>
        setLast name.toLower value (attributes?.getD [])).find? k = some attributes →
      Q k ∧ ∀ a ∈ attributes, Q a.1 := by
  intro k attributes hfind
  rw [NameMap.find?_alter] at hfind
  split at hfind
  next heq =>
    cases hfind
    refine ⟨heq ▸ htag, fun a ha => ?_⟩
    rcases mem_setLast ha with ha | rfl
    · cases hbefore : p.forced.find? tag.toLower with
      | none =>
          rw [hbefore] at ha
          cases ha
      | some before =>
          rw [hbefore] at ha
          exact (h.forced _ _ hbefore).2 a ha
    · exact hname
  · exact h.forced k attributes hfind

theorem mem_of_contains_lowered {names : List String} {k : String}
    (h : (NameSet.lowered names).contains k = true) : ∃ name ∈ names, name.toLower = k := by
  rw [NameSet.contains_lowered, List.contains_iff_mem, List.mem_map] at h
  exact h

theorem spells_apply {d : Draft} (h : d.Spells Q) {step : Step}
    (hstep : ∀ name ∈ step.names, Q name.toLower) : (d.apply step).Spells Q := by
  cases step with
  | allowElement tag attributes =>
      have htag := hstep tag (by simp [Step.names])
      have hnames : ∀ name ∈ attributes, Q name.toLower :=
        fun name hname => hstep name (by simp [Step.names, hname])
      exact ⟨{ h.policy with elements := h.policy.elements.grant htag hnames }, h.granted⟩
  | allowAttribute name tags =>
      have hname : ∀ n ∈ [name], Q n.toLower := by
        intro n hn
        rw [List.mem_singleton] at hn
        exact hn ▸ hstep name (by simp [Step.names])
      have htags : ∀ tag ∈ tags, Q tag.toLower :=
        fun tag htag => hstep tag (by simp [Step.names, htag])
      exact ⟨h.policy, h.granted.grantAll htags hname⟩
  | clearElements => exact ⟨{ h.policy with elements := NameMap.spells_empty }, NameMap.spells_empty⟩
  | clearGlobalAttributes =>
      exact ⟨{ h.policy with globals := fun name hname => by cases hname }, h.granted⟩
  | clearForcedAttributes =>
      exact ⟨{ h.policy with forced := fun tag attributes hfind => by cases hfind }, h.granted⟩
  | allowGlobalAttribute name =>
      refine ⟨{ h.policy with globals := fun k hk => ?_ }, h.granted⟩
      have hk' : k = name.toLower ∨ d.policy.globalAttributes.contains k = true := by
        simpa [apply, NameSet.contains_add] using hk
      rcases hk' with rfl | hk'
      · exact hstep name (by simp [Step.names])
      · exact h.policy.globals k hk'
  | forceAttribute tag name value =>
      have htag := hstep tag (by simp [Step.names])
      have hname := hstep name (by simp [Step.names])
      exact ⟨{ h.policy with forced := spells_force h.policy htag hname value }, h.granted⟩
  | removeWithContent tag =>
      refine ⟨{ h.policy with
        elements := h.policy.elements.filterKeys _
        removed := fun k hk => ?_ }, h.granted⟩
      have hk' : k = tag.toLower ∨ d.policy.removesWithContent k = true := by
        simpa [apply, Policy.removesWithContent, NameSet.contains_add] using hk
      rcases hk' with rfl | hk'
      · exact hstep tag (by simp [Step.names])
      · exact h.policy.removed k hk'
  | removedWithContent tags =>
      refine ⟨{ h.policy with removed := fun k hk => ?_ }, h.granted⟩
      obtain ⟨tag, htag, rfl⟩ := mem_of_contains_lowered hk
      exact hstep tag htag
  | rebuild => exact spells_toDraft h.finish
  | allowLinkSchemes | allowMediaSchemes | allowRelativeLinks | allowRelativeMedia
  | maxInputLength => exact ⟨{ h.policy with }, h.granted⟩

theorem spells_applyAll {d : Draft} (h : d.Spells Q) {steps : List Step}
    (hsteps : ∀ step ∈ steps, ∀ name ∈ step.names, Q name.toLower) : (d.applyAll steps).Spells Q := by
  induction steps generalizing d with
  | nil => exact h
  | cons step rest ih =>
      exact ih (spells_apply h (hsteps step (by simp)))
        fun step' hstep' => hsteps step' (List.mem_cons_of_mem _ hstep')

theorem spells_empty (h : ∀ tag ∈ neverProse, Q tag.toLower) : empty.Spells Q where
  policy := {
    elements := NameMap.spells_empty
    globals := fun name hname => by cases hname
    forced := fun tag attributes hfind => by cases hfind
    removed := fun tag htag => by
      obtain ⟨given, hgiven, rfl⟩ := mem_of_contains_lowered htag
      exact h given hgiven }
  granted := NameMap.spells_empty

end Draft

/-- Names in a policy are those of its steps in lower case. -/
theorem Policy.spells_ofSteps {steps : List Step} (hempty : ∀ tag ∈ Draft.neverProse, Q tag.toLower)
    (hsteps : ∀ step ∈ steps, ∀ name ∈ step.names, Q name.toLower) : (ofSteps steps).Spells Q :=
  (Draft.spells_applyAll (Draft.spells_empty hempty) hsteps).finish

end SafeReadme
