import SafeReadme.Proofs.Html.Elements
import SafeReadme.Proofs.Policy.Lookup
import SafeReadme.Sanitize.Walk

/-!
# What a walk keeps

One attribute is kept or dropped, and `Passes` says what it takes to be kept. From that follows what
the attributes of an element are that stays, and what every element is that stays at any depth of a
forest. Nothing here depends on which policy the walk is made with.
-/

namespace SafeReadme

namespace Walked

variable {α : Type}

@[simp] theorem kept_append (a b : Walked α) : (a ++ b).kept = a.kept ++ b.kept := rfl

@[simp] theorem drops_append (a b : Walked α) : (a ++ b).drops = a.drops ++ b.drops := rfl

theorem append_assoc (a b c : Walked α) : a ++ b ++ c = a ++ (b ++ c) := by
  show (⟨a.kept ++ b.kept ++ c.kept, a.drops ++ b.drops ++ c.drops⟩ : Walked α) = _
  rw [List.append_assoc, List.append_assoc]
  rfl

@[simp] theorem kept_nothing : (nothing : Walked α).kept = [] := rfl

@[simp] theorem drops_nothing : (nothing : Walked α).drops = [] := rfl

@[simp] theorem kept_keep (a : α) : (keep a).kept = [a] := rfl

@[simp] theorem drops_keep (a : α) : (keep a).drops = [] := rfl

@[simp] theorem kept_drop (d : Drop) : (drop d : Walked α).kept = [] := rfl

@[simp] theorem drops_drop (d : Drop) : (drop d : Walked α).drops = [d] := rfl

end Walked

namespace Sanitizer

open Html

/-! ## One attribute -/

/-- What it takes that an attribute of `tag` is kept with `value`: the value is forced, or the
attribute is allowed and its rule gives the value. -/
def Passes (s : Sanitizer) (tag : String) (a : Attribute) (value : String) : Prop :=
  (s.policy.forcedAttributes tag).lookup a.name = some value ∨
    (s.policy.forcedAttributes tag).lookup a.name = none ∧
      s.policy.allowsAttribute tag a.name = true ∧
        (Rule.forAttribute tag a.name s.coordinate.isSome).apply a.value s.policy s.coordinate =
          .ok value

theorem walkAttribute_cases (s : Sanitizer) (tag : String) (seen : List String) (a : Attribute) :
    (∃ reason, s.walkAttribute tag seen a = .drop (.attr tag a.name reason)) ∨
      (∃ value, s.walkAttribute tag seen a = .keep ⟨a.name, value⟩ ∧ a.name ∉ seen ∧
        s.Passes tag a value) := by
  unfold walkAttribute
  split
  · exact .inl ⟨_, rfl⟩
  next hseen =>
    have hnew : a.name ∉ seen := by simpa using hseen
    split
    next fixed hfixed => exact .inr ⟨fixed, rfl, hnew, .inl hfixed⟩
    next hfree =>
      split
      · exact .inl ⟨_, rfl⟩
      next hallowed =>
        have hallowed' : s.policy.allowsAttribute tag a.name = true := by simpa using hallowed
        simp only
        split
        next value hvalue => exact .inr ⟨value, rfl, hnew, .inr ⟨hfree, hallowed', hvalue⟩⟩
        · exact .inl ⟨_, rfl⟩

theorem walkAttribute_of_passes {s : Sanitizer} {tag : String} {seen : List String}
    {a : Attribute} {value : String} (hnew : a.name ∉ seen) (hpasses : s.Passes tag a value) :
    s.walkAttribute tag seen a = .keep ⟨a.name, value⟩ := by
  have hseen : seen.contains a.name = false := by simpa using hnew
  unfold walkAttribute
  rw [hseen]
  rcases hpasses with hforced | ⟨hfree, hallowed, hvalue⟩
  · simp [hforced]
  · simp [hfree, hallowed, hvalue]

/-! ## The attributes of an element -/

theorem mem_kept_walkSource {s : Sanitizer} {tag : String} {seen : List String}
    {source : List Attribute} {b : Attribute} (hb : b ∈ (s.walkSource tag seen source).kept) :
    b.name ∉ seen ∧ ∃ a ∈ source, a.name = b.name ∧ s.Passes tag a b.value := by
  induction source generalizing seen with
  | nil => simp [walkSource] at hb
  | cons a rest ih =>
      rw [walkSource, Walked.kept_append, List.mem_append] at hb
      rcases hb with hb | hb
      · rcases s.walkAttribute_cases tag seen a with ⟨reason, hdrop⟩ | ⟨value, hkeep, hnew, hpasses⟩
        · rw [hdrop] at hb
          simp at hb
        · rw [hkeep, Walked.kept_keep, List.mem_singleton] at hb
          subst hb
          exact ⟨hnew, a, by simp, rfl, hpasses⟩
      · obtain ⟨hnew, a', ha', hname, hpasses⟩ := ih hb
        exact ⟨fun h => hnew (List.mem_cons_of_mem _ h), a', List.mem_cons_of_mem _ ha', hname,
          hpasses⟩

theorem nodup_names_walkSource (s : Sanitizer) (tag : String) (seen : List String)
    (source : List Attribute) : (names (s.walkSource tag seen source).kept).Nodup := by
  induction source generalizing seen with
  | nil => simp [walkSource, names]
  | cons a rest ih =>
      rw [walkSource, Walked.kept_append]
      rcases s.walkAttribute_cases tag seen a with ⟨reason, hdrop⟩ | ⟨value, hkeep, -, -⟩
      · rw [hdrop]
        exact ih (a.name :: seen)
      · have hnot : a.name ∉ names (s.walkSource tag (a.name :: seen) rest).kept := by
          intro hmem
          obtain ⟨b, hb, hname⟩ := mem_names.1 hmem
          exact (mem_kept_walkSource hb).1 (by simp [hname])
        rw [hkeep]
        exact List.nodup_cons.2 ⟨hnot, ih (a.name :: seen)⟩

theorem walkSource_append (s : Sanitizer) (tag : String) (seen : List String)
    (before after : List Attribute) :
    s.walkSource tag seen (before ++ after) =
      s.walkSource tag seen before ++ s.walkSource tag ((names before).reverse ++ seen) after := by
  -- The names seen so far are in reverse, the last one first.
  induction before generalizing seen with
  | nil => rfl
  | cons a rest ih =>
      rw [List.cons_append, walkSource, ih, walkSource, Walked.append_assoc]
      simp [names]

theorem forced_mem_walkSource {s : Sanitizer} {tag name value : String} {seen : List String}
    {source : List Attribute}
    (hforced : (s.policy.forcedAttributes tag).lookup name = some value)
    (hnew : name ∉ seen) (hname : name ∈ names source) :
    ⟨name, value⟩ ∈ (s.walkSource tag seen source).kept := by
  induction source generalizing seen with
  | nil => simp [names] at hname
  | cons a rest ih =>
      rw [walkSource, Walked.kept_append, List.mem_append]
      by_cases heq : a.name = name
      · subst heq
        rw [walkAttribute_of_passes hnew (.inl hforced)]
        exact .inl (by simp)
      · right
        apply ih
        · simp [hnew, Ne.symm heq]
        · simpa [names, Ne.symm heq] using hname

theorem mem_missingForced {s : Sanitizer} {tag : String} {source : List Attribute}
    {b : Attribute} :
    b ∈ s.missingForced tag source ↔
      (b.name, b.value) ∈ s.policy.forcedAttributes tag ∧ b.name ∉ names source := by
  obtain ⟨name, value⟩ := b
  simp [missingForced, names, List.mem_filter]

theorem nodup_names_missingForced {s : Sanitizer} {tag : String} {source : List Attribute}
    (h : ((s.policy.forcedAttributes tag).map Prod.fst).Nodup) :
    (names (s.missingForced tag source)).Nodup := by
  have hnames : names (s.missingForced tag source) =
      ((s.policy.forcedAttributes tag).filter
        (fun forced => !(source.map Attribute.name).contains forced.1)).map Prod.fst := by
    simp [missingForced, names, Function.comp_def]
  rw [hnames]
  exact h.sublist (List.filter_sublist.map Prod.fst)

theorem kept_walkAttributes (s : Sanitizer) (tag : String) (source : List Attribute) :
    (s.walkAttributes tag source).kept =
      (s.walkSource tag [] source).kept ++ s.missingForced tag source := rfl

theorem drops_walkAttributes (s : Sanitizer) (tag : String) (source : List Attribute) :
    (s.walkAttributes tag source).drops = (s.walkSource tag [] source).drops := by
  simp [walkAttributes]

theorem nodup_names_walkAttributes {s : Sanitizer} {tag : String} (source : List Attribute)
    (h : ((s.policy.forcedAttributes tag).map Prod.fst).Nodup) :
    (names (s.walkAttributes tag source).kept).Nodup := by
  rw [kept_walkAttributes, names, List.map_append, List.nodup_append]
  refine ⟨s.nodup_names_walkSource tag [] source, nodup_names_missingForced h, ?_⟩
  intro name hsource other hmissing heq
  subst heq
  obtain ⟨b, hb, rfl⟩ := mem_names.1 hsource
  obtain ⟨b', hb', hname⟩ := mem_names.1 hmissing
  obtain ⟨-, a, ha, haname, -⟩ := mem_kept_walkSource hb
  exact (mem_missingForced.1 hb').2 (mem_names.2 ⟨a, ha, haname.trans hname.symm⟩)

theorem forced_mem_walkAttributes {s : Sanitizer} {tag name value : String}
    (source : List Attribute)
    (hnodup : ((s.policy.forcedAttributes tag).map Prod.fst).Nodup)
    (hforced : (name, value) ∈ s.policy.forcedAttributes tag) :
    ⟨name, value⟩ ∈ (s.walkAttributes tag source).kept := by
  rw [kept_walkAttributes, List.mem_append]
  by_cases hname : name ∈ names source
  · exact .inl (forced_mem_walkSource (lookup_eq_some_of_mem hnodup hforced) (by simp) hname)
  · exact .inr (mem_missingForced.2 ⟨hforced, hname⟩)

/-! ## The elements of a forest -/

theorem walkNode_of_allowed {s : Sanitizer} {tag : String} {attributes : List Attribute}
    (hremoved : s.policy.removesWithContent tag = false)
    (hallowed : s.policy.allowsElement tag = true)
    (hsource : Rule.requiresSource tag = true → "src" ∈ names (s.walkAttributes tag attributes).kept)
    (children : List Node) :
    s.walkNode (.element tag attributes children) =
      ⟨[.element tag (s.walkAttributes tag attributes).kept (s.walkForest children).kept],
        (s.walkAttributes tag attributes).drops ++ (s.walkForest children).drops⟩ := by
  have hmissing : (Rule.requiresSource tag &&
      !(s.walkAttributes tag attributes).kept.any (fun a => a.name == "src")) = false := by
    by_cases hrequires : Rule.requiresSource tag = true
    · obtain ⟨a, ha, hname⟩ := mem_names.1 (hsource hrequires)
      have hany : (s.walkAttributes tag attributes).kept.any (fun a => a.name == "src") = true :=
        List.any_eq_true.2 ⟨a, ha, beq_iff_eq.2 hname⟩
      simp [hany]
    · simp [hrequires]
  rw [walkNode, hremoved, hallowed]
  simp [hmissing]

/-- What every element is that a walk keeps. -/
structure Keeps (s : Sanitizer) (e : Element) : Prop where
  allowed : s.policy.allowsElement e.tag = true
  notRemoved : s.policy.removesWithContent e.tag = false
  filtered : ∃ source, e.attributes = (s.walkAttributes e.tag source).kept
  hasSource : Rule.requiresSource e.tag = true → "src" ∈ names e.attributes

mutual

theorem keeps_of_mem_walkNode (s : Sanitizer) :
    ∀ node, ∀ e ∈ elements (s.walkNode node).kept, s.Keeps e
  | .text content, e, he => by
      rw [walkNode] at he
      simp at he
  | .element tag attributes children, e, he => by
      rw [walkNode] at he
      split at he
      · simp at he
      next hremoved =>
        split at he
        · rw [Walked.kept_append, elements_append] at he
          exact keeps_of_mem_walkForest s children e (by simpa using he)
        next hallowed =>
          simp only at he
          split at he
          · simp at he
          next hsource =>
            simp only [elements_cons, elements_element, elements_nil, List.append_nil,
              List.mem_cons] at he
            rcases he with rfl | he
            · exact {
                allowed := by simpa using hallowed
                notRemoved := by simpa using hremoved
                filtered := ⟨attributes, rfl⟩
                hasSource := fun hrequires => by
                  rw [hrequires] at hsource
                  simpa [names] using hsource }
            · exact keeps_of_mem_walkForest s children e he

theorem keeps_of_mem_walkForest (s : Sanitizer) :
    ∀ nodes, ∀ e ∈ elements (s.walkForest nodes).kept, s.Keeps e
  | [], e, he => by
      rw [walkForest] at he
      simp at he
  | node :: rest, e, he => by
      rw [walkForest, Walked.kept_append, elements_append, List.mem_append] at he
      rcases he with he | he
      · exact keeps_of_mem_walkNode s node e he
      · exact keeps_of_mem_walkForest s rest e he

end

/-! ## A whole document -/

theorem exists_read_of_sanitize {s : Sanitizer} {html : String} {r : Rendered}
    (h : s.sanitize html = .ok r) :
    ∃ nodes, read? html = some nodes ∧ r = s.sanitizeNodes nodes := by
  unfold sanitize readWithin at h
  split at h
  · cases h
  · cases hread : read? html with
    | none =>
        rw [hread] at h
        cases h
    | some nodes =>
        rw [hread] at h
        exact ⟨nodes, rfl, (Except.ok.inj h).symm⟩

end Sanitizer

end SafeReadme
