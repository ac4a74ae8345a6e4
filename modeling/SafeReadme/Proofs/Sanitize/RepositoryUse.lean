import SafeReadme.Proofs.Sanitize.UrlFilter
import SafeReadme.Proofs.Sanitize.Walk

/-!
# What a walk uses the repository for

A repository is asked for the paths that links name, and for nothing else. All other links are kept,
promoted or refused alike with a repository and without one, for the same reasons, so a document
without paths is walked alike.
-/

namespace SafeReadme

open Html

namespace Rule

/-! ## One value -/

/-- A value that is read as a path of the repository. The empty link is of the same kind as a path,
but it is refused before a path is looked for. -/
def NamesPath (value : String) : Prop :=
  Url.canonical value ≠ "" ∧ (Link.classify (Url.canonical value)).isRelativePath = true

instance (value : String) : Decidable (NamesPath value) :=
  inferInstanceAs (Decidable (_ ∧ _))

section

variable {policy : Policy} {c : UrlClass} {r : Coordinate}

/-- Only for a path the repository is looked at. -/
theorem resolve_of_not_relative {link : String}
    (h : (Link.classify link).isRelativePath = false) (coordinate : Option Coordinate) :
    resolve link coordinate = resolve link none := by
  unfold resolve
  cases hkind : Link.classify link with
  | absolute scheme url => rfl
  | schemeRelative link => rfl
  | fragment anchor => rfl
  | rootRelative link => simp [hkind, Link.isRelativePath] at h
  | documentRelative link => simp [hkind, Link.isRelativePath] at h

theorem rewrite_of_not_relative {link : String} (hne : link ≠ "")
    (h : (Link.classify link).isRelativePath = false) :
    rewrite (resolved c) link (some r) = rewrite (schemeFiltered c) link none := by
  have hresolved : rewrite (resolved c) link (some r) = resolve link none :=
    resolve_of_not_relative h (some r)
  rw [hresolved]
  cases hlink : Url.scheme? link with
  | some scheme =>
      have hkind := Link.classify_of_scheme hlink
      simp [rewrite, resolve, hkind, hne]
  | none =>
      rcases Link.classify_of_no_scheme hlink with
        ⟨-, anchor, hkind⟩ | ⟨-, -, hkind⟩ | ⟨-, -, hkind | hkind⟩
      · simp [rewrite, resolve, hkind, hne]
      · simp [rewrite, hkind]
      · simp [hkind, Link.isRelativePath] at h
      · simp [hkind, Link.isRelativePath] at h

theorem applyUrl_of_not_namesPath {value : String} (h : ¬NamesPath value) :
    applyUrl (resolved c) c value policy (some r) =
      applyUrl (schemeFiltered c) c value policy none := by
  by_cases hempty : Url.canonical value = ""
  · simp [applyUrl, hempty]
  · have hkind : (Link.classify (Url.canonical value)).isRelativePath = false := by
      by_contra hpath
      exact h ⟨hempty, by simpa using hpath⟩
    simp only [applyUrl, hkind, rewrite_of_not_relative hempty hkind]

/-- **An attribute that names no path is filtered alike** with a repository and without one. -/
theorem apply_of_not_namesPath {tag name value : String}
    (h : urlClass tag name ≠ none → ¬NamesPath value) :
    (forAttribute tag name true).apply value policy (some r) =
      (forAttribute tag name false).apply value policy none := by
  cases hclass : urlClass tag name with
  | none =>
      rw [forAttribute, forAttribute, hclass]
      rfl
  | some c =>
      have hpath : ¬NamesPath value := h (by simp [hclass])
      rw [forAttribute_of_urlClass hclass, forAttribute_of_urlClass hclass, apply_forUrl,
        apply_forUrl]
      exact applyUrl_of_not_namesPath hpath

end

end Rule

namespace Sanitizer

/-! ## Two walks -/

section

variable {s t : Sanitizer}

theorem walkAttribute_congr (hpolicy : s.policy = t.policy) {tag : String} {a : Attribute}
    (h : (Rule.forAttribute tag a.name s.coordinate.isSome).apply a.value s.policy s.coordinate =
      (Rule.forAttribute tag a.name t.coordinate.isSome).apply a.value t.policy t.coordinate)
    (seen : List String) : s.walkAttribute tag seen a = t.walkAttribute tag seen a := by
  simp only [walkAttribute, h]
  rw [hpolicy]

theorem walkAttributes_congr (hpolicy : s.policy = t.policy) {tag : String}
    {source : List Attribute}
    (h : ∀ a ∈ source, ∀ seen, s.walkAttribute tag seen a = t.walkAttribute tag seen a) :
    s.walkAttributes tag source = t.walkAttributes tag source := by
  have hsource : ∀ seen, s.walkSource tag seen source = t.walkSource tag seen source := by
    induction source with
    | nil => exact fun seen => rfl
    | cons a rest ih =>
        intro seen
        rw [walkSource, walkSource, h a (by simp),
          ih fun b hb => h b (List.mem_cons_of_mem _ hb)]
  rw [walkAttributes, walkAttributes, hsource, missingForced, missingForced, hpolicy]

mutual

theorem walkNode_congr (hpolicy : s.policy = t.policy) :
    ∀ node, (∀ e ∈ Node.elements node,
      s.walkAttributes e.tag e.attributes = t.walkAttributes e.tag e.attributes) →
        s.walkNode node = t.walkNode node
  | .text content, _ => by
      rw [walkNode, walkNode]
  | .element tag attributes children, h => by
      rw [elements_element] at h
      have hself : s.walkAttributes tag attributes = t.walkAttributes tag attributes :=
        h ⟨tag, attributes⟩ (by simp)
      have hinner := walkForest_congr hpolicy children fun e he => h e (List.mem_cons_of_mem _ he)
      rw [walkNode, walkNode, hself, hinner, hpolicy]

theorem walkForest_congr (hpolicy : s.policy = t.policy) :
    ∀ nodes, (∀ e ∈ elements nodes,
      s.walkAttributes e.tag e.attributes = t.walkAttributes e.tag e.attributes) →
        s.walkForest nodes = t.walkForest nodes
  | [], _ => by
      rw [walkForest, walkForest]
  | node :: rest, h => by
      rw [elements_cons] at h
      rw [walkForest, walkForest,
        walkNode_congr hpolicy node fun e he => h e (List.mem_append_left _ he),
        walkForest_congr hpolicy rest fun e he => h e (List.mem_append_right _ he)]

end

end

/-- **A repository matters for paths only.** Whatever the policy and the repository, a forest in
which no URL attribute of any element is read as a path is walked as if no repository were known:
the same nodes are kept with the same values, and the same things are dropped for the same
reasons. -/
theorem walkForest_of_not_namesPath (policy : Policy) (r : Coordinate) (nodes : List Node)
    (h : ∀ e ∈ elements nodes, ∀ a ∈ e.attributes,
      Rule.urlClass e.tag a.name ≠ none → ¬Rule.NamesPath a.value) :
    (⟨policy, some r⟩ : Sanitizer).walkForest nodes =
      (⟨policy, none⟩ : Sanitizer).walkForest nodes := by
  have hpolicy : (⟨policy, some r⟩ : Sanitizer).policy = (⟨policy, none⟩ : Sanitizer).policy := rfl
  apply walkForest_congr hpolicy
  intro e he
  apply walkAttributes_congr hpolicy
  intro a ha seen
  exact walkAttribute_congr hpolicy (Rule.apply_of_not_namesPath (h e he a ha)) seen

/-- An anchor, addresses without a scheme, with a host and without one, a scheme that a tab hides, an
empty link, and a path where no URL stands. -/
theorem walkForest_of_not_namesPath_mixed :
    let r : Coordinate := ⟨"github.com", "o/r", ["docs"]⟩
    let nodes : List Node := [.element "a" [⟨"href", " ./#top"⟩, ⟨"title", "../x"⟩] [],
      .element "p" [] [.element "img" [⟨"src", "\\\\h/x"⟩] [], .element "img" [⟨"src", "//"⟩] []],
      .element "a" [⟨"href", "java\tscript:x"⟩] [], .element "a" [⟨"href", "\n"⟩] []]
    (∀ e ∈ elements nodes, ∀ a ∈ e.attributes,
      Rule.urlClass e.tag a.name ≠ none → ¬Rule.NamesPath a.value) ∧
      (⟨Policy.packagist, some r⟩ : Sanitizer).walkForest nodes =
        (⟨Policy.packagist, none⟩ : Sanitizer).walkForest nodes := by
  intro r nodes
  have hnodes : ∀ e ∈ elements nodes, ∀ a ∈ e.attributes,
      Rule.urlClass e.tag a.name ≠ none → ¬Rule.NamesPath a.value := by
    decide +kernel
  exact ⟨hnodes, walkForest_of_not_namesPath Policy.packagist r nodes hnodes⟩

end Sanitizer

end SafeReadme
