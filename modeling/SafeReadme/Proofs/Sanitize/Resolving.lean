import SafeReadme.Proofs.Sanitize.RepositoryUse
import SafeReadme.Proofs.Sanitize.Settled

/-!
# Resolving afterwards

A document may be walked without a repository first: paths are left as they are then, and a walk with
the repository over what is kept resolves them as if it had been known from the start.
-/

namespace SafeReadme

open Html Url

namespace Rule

variable {policy : Policy} {coordinate : Option Coordinate}

/-! ## One value -/

section

variable {c : UrlClass} {value out : String}

theorem scheme?_of_namesPath (h : NamesPath value) : scheme? (canonical value) = none := by
  cases hscheme : scheme? (canonical value) with
  | none => rfl
  | some scheme =>
      have hpath := h.2
      rw [Link.classify_of_scheme hscheme] at hpath
      cases hpath

/-- A path is left as a browser reads it where no repository is known. -/
theorem applyUrl_of_namesPath (h : NamesPath value) :
    applyUrl (forUrl c false) c value policy none = .ok out ↔
      policy.allowsRelative c = true ∧ out = canonical value := by
  have hrewrite : rewrite (forUrl c false) (canonical value) none = .ok (canonical value) := by
    have hpath := h.2
    cases hkind : Link.classify (canonical value) with
    | schemeRelative link =>
        rw [hkind] at hpath
        cases hpath
    | absolute scheme url => simp [rewrite, forUrl, hkind]
    | fragment anchor => simp [rewrite, forUrl, hkind]
    | rootRelative link => simp [rewrite, forUrl, hkind]
    | documentRelative link => simp [rewrite, forUrl, hkind]
  rw [applyUrl_eq_ok_iff, hrewrite, Except.ok.injEq]
  constructor
  · rintro ⟨-, hallowed, rfl, -⟩
    exact ⟨hallowed h.2, rfl⟩
  · rintro ⟨hallowed, rfl⟩
    exact ⟨h.1, fun _ => hallowed, rfl, by simp [scheme?_of_namesPath h]⟩

/-- A URL that is given without a repository is resolved as the value that it comes from. -/
theorem applyUrl_again (hmade : ∀ r ∈ coordinate, r.Made)
    (h : applyUrl (forUrl c false) c value policy none = .ok out) :
    applyUrl (forUrl c coordinate.isSome) c out policy coordinate =
      applyUrl (forUrl c coordinate.isSome) c value policy coordinate := by
  by_cases hpath : NamesPath value
  · obtain ⟨-, rfl⟩ := (applyUrl_of_namesPath hpath).1 h
    simp only [applyUrl, canonical_canonical]
  · have hsame : applyUrl (forUrl c coordinate.isSome) c value policy coordinate = .ok out := by
      cases coordinate with
      | none => exact h
      | some r => exact (applyUrl_of_not_namesPath hpath).trans h
    rw [applyUrl_idempotent hmade hsame, hsame]

theorem exists_applyUrl_of_applyUrl
    (h : applyUrl (forUrl c coordinate.isSome) c value policy coordinate = .ok out) :
    ∃ unresolved, applyUrl (forUrl c false) c value policy none = .ok unresolved := by
  by_cases hpath : NamesPath value
  · have hallowed := (applyUrl_eq_ok_iff.1 h).2.1 hpath.2
    exact ⟨_, (applyUrl_of_namesPath hpath).2 ⟨hallowed, rfl⟩⟩
  · cases coordinate with
    | none => exact ⟨out, h⟩
    | some r => exact ⟨out, (applyUrl_of_not_namesPath hpath).symm.trans h⟩

end

variable {tag name value out : String}

theorem apply_again (hmade : ∀ r ∈ coordinate, r.Made)
    (h : (forAttribute tag name false).apply value policy none = .ok out) :
    (forAttribute tag name coordinate.isSome).apply out policy coordinate =
      (forAttribute tag name coordinate.isSome).apply value policy coordinate := by
  cases hclass : urlClass tag name with
  | none =>
      simp only [forAttribute, hclass, apply, Except.ok.injEq] at h ⊢
      exact h.symm
  | some c =>
      rw [forAttribute_of_urlClass hclass, apply_forUrl] at h
      rw [forAttribute_of_urlClass hclass, apply_forUrl, apply_forUrl]
      exact applyUrl_again hmade h

theorem exists_apply_of_apply
    (h : (forAttribute tag name coordinate.isSome).apply value policy coordinate = .ok out) :
    ∃ unresolved, (forAttribute tag name false).apply value policy none = .ok unresolved := by
  cases hclass : urlClass tag name with
  | none =>
      rw [forAttribute, hclass]
      exact ⟨value, rfl⟩
  | some c =>
      rw [forAttribute_of_urlClass hclass, apply_forUrl] at h ⊢
      exact exists_applyUrl_of_applyUrl h

end Rule

namespace Sanitizer

def unplaced (s : Sanitizer) : Sanitizer :=
  ⟨s.policy, none⟩

@[simp] theorem policy_unplaced (s : Sanitizer) : s.unplaced.policy = s.policy := rfl

@[simp] theorem coordinate_unplaced (s : Sanitizer) : s.unplaced.coordinate = none := rfl

variable {s : Sanitizer}

/-! ## The attributes of an element -/

theorem Passes.exists_unplaced {tag value : String} {a : Attribute} (h : s.Passes tag a value) :
    ∃ unresolved, s.unplaced.Passes tag a unresolved := by
  rcases h with hforced | ⟨hfree, hallowed, hvalue⟩
  · exact ⟨value, .inl hforced⟩
  · obtain ⟨unresolved, hunresolved⟩ := Rule.exists_apply_of_apply hvalue
    exact ⟨unresolved, .inr ⟨hfree, hallowed, hunresolved⟩⟩

/-- The names that were seen may be fewer in the second walk, which does not meet what was
dropped. -/
theorem walkAttribute_again (hmade : ∀ r ∈ s.coordinate, r.Made) {tag : String}
    {seen again : List String} (hagain : again ⊆ seen) (a : Attribute) :
    (s.walkSource tag again (s.unplaced.walkAttribute tag seen a).kept).kept =
      (s.walkAttribute tag seen a).kept := by
  rcases s.unplaced.walkAttribute_cases tag seen a with
    ⟨reason, hdrop⟩ | ⟨unresolved, hkeep, hnew, hpasses⟩
  · rw [hdrop]
    rcases s.walkAttribute_cases tag seen a with ⟨reason', hdrop'⟩ | ⟨value, -, hnew, hpasses⟩
    · rw [hdrop']
      rfl
    · obtain ⟨unresolved, hunresolved⟩ := hpasses.exists_unplaced
      rw [walkAttribute_of_passes hnew hunresolved] at hdrop
      cases hdrop
  · have hnew' : a.name ∉ again := fun hmem => hnew (hagain hmem)
    have hwalk : s.walkAttribute tag again ⟨a.name, unresolved⟩ = s.walkAttribute tag seen a := by
      rcases hpasses with hforced | ⟨-, -, hunresolved⟩
      · rw [policy_unplaced] at hforced
        rw [walkAttribute_of_passes hnew (.inl hforced)]
        exact walkAttribute_of_passes (a := ⟨a.name, unresolved⟩) hnew' (.inl hforced)
      · rw [policy_unplaced, coordinate_unplaced] at hunresolved
        simp [walkAttribute, hnew, hnew', Rule.apply_again hmade hunresolved]
    rw [hkeep]
    show (s.walkAttribute tag again ⟨a.name, unresolved⟩ ++ .nothing).kept = _
    rw [hwalk, Walked.kept_append, Walked.kept_nothing, List.append_nil]

theorem walkSource_again (hmade : ∀ r ∈ s.coordinate, r.Made) {tag : String}
    {seen again : List String} (hagain : again ⊆ seen) (source : List Attribute) :
    (s.walkSource tag again (s.unplaced.walkSource tag seen source).kept).kept =
      (s.walkSource tag seen source).kept := by
  induction source generalizing seen again with
  | nil => rfl
  | cons a rest ih =>
      have hnames : names (s.unplaced.walkAttribute tag seen a).kept ⊆ [a.name] := by
        rcases s.unplaced.walkAttribute_cases tag seen a with ⟨reason, h⟩ | ⟨value, h, -⟩ <;>
          simp [h, names]
      have hmore : (names (s.unplaced.walkAttribute tag seen a).kept).reverse ++ again ⊆
          a.name :: seen := by
        intro name hname
        rcases List.mem_append.1 hname with hname | hname
        · exact List.mem_cons.2 (.inl (List.mem_singleton.1 (hnames (List.mem_reverse.1 hname))))
        · exact List.mem_cons_of_mem _ (hagain hname)
      rw [walkSource, walkSource, Walked.kept_append, Walked.kept_append, walkSource_append,
        Walked.kept_append, walkAttribute_again hmade hagain, ih hmore]

/-- Attributes are filtered as if the repository had been known from the start. -/
theorem walkAttributes_again (hmade : ∀ r ∈ s.coordinate, r.Made) {tag : String}
    (hnodup : ((s.policy.forcedAttributes tag).map Prod.fst).Nodup) (source : List Attribute) :
    (s.walkAttributes tag (s.unplaced.walkAttributes tag source).kept).kept =
      (s.walkAttributes tag source).kept := by
  have hmissing : s.missingForced tag (s.unplaced.walkAttributes tag source).kept = [] := by
    rw [List.eq_nil_iff_forall_not_mem]
    intro b hb
    obtain ⟨hforced, hnot⟩ := mem_missingForced.1 hb
    exact hnot (mem_names.2 ⟨_, forced_mem_walkAttributes source hnodup hforced, rfl⟩)
  have hforced : (s.walkSource tag
      ((names (s.unplaced.walkSource tag [] source).kept).reverse ++ [])
        (s.missingForced tag source)).kept = s.missingForced tag source := by
    rw [walkSource_of_passes (nodup_names_missingForced hnodup)]
    · intro b hb hmem
      rw [List.append_nil, List.mem_reverse] at hmem
      obtain ⟨kept, hkept, hname⟩ := mem_names.1 hmem
      obtain ⟨-, a, ha, hsource, -⟩ := mem_kept_walkSource hkept
      exact (mem_missingForced.1 hb).2 (mem_names.2 ⟨a, ha, hsource.trans hname⟩)
    · intro b hb
      exact .inl (lookup_eq_some_of_mem hnodup (mem_missingForced.1 hb).1)
  rw [kept_walkAttributes, hmissing, List.append_nil, kept_walkAttributes, walkSource_append,
    Walked.kept_append, walkSource_again hmade (List.Subset.refl []), kept_walkAttributes]
  exact congrArg _ hforced

theorem names_walkAttributes_unplaced (hmade : ∀ r ∈ s.coordinate, r.Made) {tag : String}
    (hnodup : ((s.policy.forcedAttributes tag).map Prod.fst).Nodup) (source : List Attribute) :
    names (s.walkAttributes tag source).kept ⊆
      names (s.unplaced.walkAttributes tag source).kept := by
  intro name hname
  obtain ⟨b, hb, rfl⟩ := mem_names.1 hname
  rw [← walkAttributes_again hmade hnodup, kept_walkAttributes, List.mem_append] at hb
  rcases hb with hb | hb
  · obtain ⟨-, a, ha, hsame, -⟩ := mem_kept_walkSource hb
    exact mem_names.2 ⟨a, ha, hsame⟩
  · obtain ⟨hforced, -⟩ := mem_missingForced.1 hb
    exact mem_names.2 ⟨_, forced_mem_walkAttributes source hnodup hforced, rfl⟩

/-! ## Whole forests -/

theorem kept_walkNode_of_allowed {tag : String} (hremoved : s.policy.removesWithContent tag = false)
    (hallowed : s.policy.allowsElement tag = true) (attributes : List Attribute)
    (children : List Node) :
    (s.walkNode (.element tag attributes children)).kept =
      if Rule.requiresSource tag = true ∧ "src" ∉ names (s.walkAttributes tag attributes).kept
      then []
      else [.element tag (s.walkAttributes tag attributes).kept (s.walkForest children).kept] := by
  by_cases hsource : Rule.requiresSource tag = true ∧
      "src" ∉ names (s.walkAttributes tag attributes).kept
  · have hmissing :
        (s.walkAttributes tag attributes).kept.any (fun a => a.name == "src") = false := by
      simpa [names] using hsource.2
    rw [if_pos hsource, walkNode, hremoved, hallowed]
    simp [hmissing, hsource.1]
  · rw [if_neg hsource, walkNode_of_allowed hremoved hallowed]
    intro hrequires
    by_contra hmissing
    exact hsource ⟨hrequires, hmissing⟩

theorem walkForest_append (a b : List Node) :
    s.walkForest (a ++ b) = s.walkForest a ++ s.walkForest b := by
  induction a with
  | nil =>
      rw [List.nil_append, walkForest]
      rfl
  | cons node rest ih => rw [List.cons_append, walkForest, ih, walkForest, Walked.append_assoc]

mutual

theorem walkNode_again (hmade : ∀ r ∈ s.coordinate, r.Made)
    (hnodup : ∀ tag, ((s.policy.forcedAttributes tag).map Prod.fst).Nodup) :
    ∀ node, (s.walkForest (s.unplaced.walkNode node).kept).kept = (s.walkNode node).kept
  | .text content => by
      rw [walkNode, walkNode]
      show (s.walkForest [.text content]).kept = [.text content]
      rw [walkForest, walkForest, walkNode]
      rfl
  | .element tag attributes children => by
      have hinner := walkForest_again hmade hnodup children
      have hattributes := walkAttributes_again hmade (hnodup tag) attributes
      by_cases hremoved : s.policy.removesWithContent tag = true
      · rw [walkNode, walkNode]
        simp [hremoved, walkForest]
      · have hremoved : s.policy.removesWithContent tag = false := by simpa using hremoved
        by_cases hallowed : s.policy.allowsElement tag = true
        · rw [kept_walkNode_of_allowed hremoved hallowed]
          rw [kept_walkNode_of_allowed (s := s.unplaced) hremoved hallowed]
          split
          next hsource =>
            have hmissing : "src" ∉ names (s.walkAttributes tag attributes).kept := fun hmem =>
              hsource.2 (names_walkAttributes_unplaced hmade (hnodup tag) attributes hmem)
            rw [if_pos ⟨hsource.1, hmissing⟩, walkForest]
            rfl
          next =>
            rw [walkForest, walkForest, Walked.kept_append, Walked.kept_nothing, List.append_nil,
              kept_walkNode_of_allowed hremoved hallowed, hattributes, hinner]
        · rw [walkNode, walkNode]
          simpa [hremoved, hallowed] using hinner

/-- **A walk without a repository may go before the walk with it.** -/
theorem walkForest_again (hmade : ∀ r ∈ s.coordinate, r.Made)
    (hnodup : ∀ tag, ((s.policy.forcedAttributes tag).map Prod.fst).Nodup) :
    ∀ nodes, (s.walkForest (s.unplaced.walkForest nodes).kept).kept = (s.walkForest nodes).kept
  | [] => by
      rw [walkForest, walkForest]
      rfl
  | node :: rest => by
      rw [walkForest, walkForest, Walked.kept_append, walkForest_append, Walked.kept_append,
        walkNode_again hmade hnodup node, walkForest_again hmade hnodup rest, Walked.kept_append]

end

end Sanitizer

end SafeReadme
