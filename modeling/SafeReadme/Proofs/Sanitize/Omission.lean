import SafeReadme.Policy.Packagist
import SafeReadme.Proofs.Html.Shown
import SafeReadme.Proofs.Html.Tree.Void
import SafeReadme.Proofs.Policy.Built
import SafeReadme.Proofs.Sanitize.UrlFilter
import SafeReadme.Proofs.Sanitize.Walk

/-!
# What the writer leaves out

The writer leaves out what is in an element with a void name, and no report says so. The reader finds
nothing there, except in an embedded vocabulary, where some of these names are ordinary ones. A policy
loses content exactly if it lets such an element stay.
-/

namespace SafeReadme

open Html

/-- Whether elements of this tag stay, where what they need is there. -/
def Policy.keepsElement (p : Policy) (tag : String) : Bool :=
  p.allowsElement tag && !p.removesWithContent tag

namespace Sanitizer

variable {s : Sanitizer}

/-! ## What is in the elements that a walk keeps -/

mutual

theorem mem_holdings_walkNode {h : Holding} : ∀ node, h ∈ holdings (s.walkNode node).kept →
    ∃ source ∈ node.holdings, source.element.tag = h.element.tag ∧
      h.nodes = (s.walkForest source.nodes).kept
  | .text content, hmem => by
      rw [walkNode] at hmem
      simp at hmem
  | .element tag attributes children, hmem => by
      rw [holdings_element]
      have hinner : h ∈ holdings (s.walkForest children).kept →
          ∃ source ∈ ⟨⟨tag, attributes⟩, children⟩ :: holdings children,
            source.element.tag = h.element.tag ∧ h.nodes = (s.walkForest source.nodes).kept := by
        intro hmem
        obtain ⟨source, hsource, heq⟩ := mem_holdings_walkForest children hmem
        exact ⟨source, List.mem_cons_of_mem _ hsource, heq⟩
      rw [walkNode] at hmem
      split at hmem
      · simp at hmem
      · split at hmem
        · rw [Walked.kept_append, holdings_append] at hmem
          exact hinner (by simpa using hmem)
        · simp only at hmem
          split at hmem
          · simp at hmem
          · rw [holdings_cons, holdings_element, holdings_nil, List.append_nil] at hmem
            rcases List.mem_cons.1 hmem with rfl | hmem
            · exact ⟨_, List.mem_cons_self, rfl, rfl⟩
            · exact hinner hmem

/-- An element that a walk keeps is one of the forest, with what the walk keeps of its content. -/
theorem mem_holdings_walkForest {h : Holding} :
    ∀ nodes, h ∈ holdings (s.walkForest nodes).kept →
      ∃ source ∈ holdings nodes, source.element.tag = h.element.tag ∧
        h.nodes = (s.walkForest source.nodes).kept
  | [], hmem => by
      rw [walkForest] at hmem
      simp at hmem
  | node :: rest, hmem => by
      rw [walkForest, Walked.kept_append, holdings_append, List.mem_append] at hmem
      rw [holdings_cons]
      rcases hmem with hmem | hmem
      · obtain ⟨source, hsource, heq⟩ := mem_holdings_walkNode node hmem
        exact ⟨source, List.mem_append_left _ hsource, heq⟩
      · obtain ⟨source, hsource, heq⟩ := mem_holdings_walkForest rest hmem
        exact ⟨source, List.mem_append_right _ hsource, heq⟩

end

theorem keepsElement_of_mem_holdings {nodes : List Node} {h : Holding}
    (hmem : h ∈ holdings (s.walkForest nodes).kept) :
    s.policy.keepsElement h.element.tag = true := by
  have hkeeps := s.keeps_of_mem_walkForest nodes h.element (mem_elements_iff.2 ⟨h, hmem, rfl⟩)
  simp [Policy.keepsElement, hkeeps.allowed, hkeeps.notRemoved]

/-- A void element of a document that stays holds something only if its name is void in HTML
alone. -/
theorem mem_voidInHtmlOnly_of_kept {html : String} {nodes : List Node}
    (hread : read? html = some nodes) {h : Holding}
    (hmem : h ∈ holdings (s.walkForest nodes).kept) (hvoid : isVoid h.element.tag = true)
    (hnodes : h.nodes ≠ []) : h.element.tag ∈ voidInHtmlOnly := by
  obtain ⟨source, hsource, htag, heq⟩ := mem_holdings_walkForest nodes hmem
  rw [← htag] at hvoid ⊢
  refine mem_voidInHtmlOnly_of_read? hread hsource hvoid fun hempty => hnodes ?_
  rw [heq, hempty, walkForest]
  rfl

/-! ## What is shown of a document -/

/-- **What the writer leaves out.** The output shows what the walk keeps, in this order, except what is
in elements with a name that is void in HTML alone. If the policy keeps no such elements, the output
shows all that the walk keeps, and no void element of it holds anything. -/
theorem shows_kept_of_sanitize {html : String} {r : Rendered} (h : s.sanitize html = .ok r) :
    ∃ nodes, read? html = some nodes ∧ r = s.sanitizeNodes nodes ∧
      Shows r.html.toList (visits Element.hides (s.walkForest nodes).kept) ∧
      (∀ h ∈ holdings (s.walkForest nodes).kept, isVoid h.element.tag = true → h.nodes ≠ [] →
        h.element.tag ∈ voidInHtmlOnly) ∧
      ((∀ tag ∈ voidInHtmlOnly, s.policy.keepsElement tag = false) →
        Shows r.html.toList (allVisits (s.walkForest nodes).kept) ∧
          ∀ h ∈ holdings (s.walkForest nodes).kept,
            isVoid h.element.tag = true → h.nodes = []) := by
  obtain ⟨nodes, hread, rfl⟩ := exists_read_of_sanitize h
  have hshows := shows_write (s.walkForest nodes).kept
  have honly : ∀ h ∈ holdings (s.walkForest nodes).kept, isVoid h.element.tag = true →
      h.nodes ≠ [] → h.element.tag ∈ voidInHtmlOnly :=
    fun h hmem => mem_voidInHtmlOnly_of_kept hread hmem
  refine ⟨nodes, hread, rfl, hshows, honly, fun hpolicy => ?_⟩
  have hempty : ∀ h ∈ holdings (s.walkForest nodes).kept,
      isVoid h.element.tag = true → h.nodes = [] := by
    intro h hmem hvoid
    refine Classical.byContradiction fun hnodes => ?_
    have hkeeps := keepsElement_of_mem_holdings hmem
    rw [hpolicy _ (honly h hmem hvoid hnodes)] at hkeeps
    cases hkeeps
  have hall : visits Element.hides (s.walkForest nodes).kept = allVisits (s.walkForest nodes).kept :=
    visits_of_empty hempty
  exact ⟨hall ▸ hshows, hempty⟩

/-- The Packagist policy keeps line breaks, but no `source`, so the text in one is shown. -/
theorem shows_kept_of_sanitize_packagist :
    let s : Sanitizer := ⟨.packagist, none⟩
    (∀ tag ∈ voidInHtmlOnly, s.policy.keepsElement tag = false) ∧
      ∃ r nodes, s.sanitize "a<br>b<svg><source>c" = .ok r ∧
        read? "a<br>b<svg><source>c" = some nodes ∧ r.html = "a<br />bc" ∧
        Shows r.html.toList (allVisits (s.walkForest nodes).kept) := by
  intro s
  have hpolicy : ∀ tag ∈ voidInHtmlOnly, s.policy.keepsElement tag = false := by decide +kernel
  have hsanitize : s.sanitize "a<br>b<svg><source>c" = .ok ⟨"a<br />bc",
      ⟨[.element "svg" .disallowedElement, .element "source" .disallowedElement]⟩⟩ :=
    eq_ok_of_toOption (by decide +kernel)
  obtain ⟨nodes, hread, -, -, -, hshows⟩ := shows_kept_of_sanitize hsanitize
  exact ⟨hpolicy, _, nodes, hsanitize, hread, rfl, (hshows hpolicy).1⟩

/-! ## Where content is lost -/

theorem read?_embedded : ∀ tag ∈ voidInHtmlOnly,
    read? ("<svg><" ++ tag ++ ">x") = some [.element "svg" [] [.element tag [] [.text "x"]]] := by
  decide +kernel

theorem holdings_walkForest_subset {tag : String} (hremoved : s.policy.removesWithContent tag = false)
    (hsource : Rule.requiresSource tag = false) (attributes : List Attribute)
    (children : List Node) :
    holdings (s.walkForest children).kept ⊆
      holdings (s.walkNode (.element tag attributes children)).kept := by
  by_cases hallowed : s.policy.allowsElement tag = true
  · rw [walkNode_of_allowed hremoved hallowed (by simp [hsource]), holdings_cons, holdings_element]
    exact fun h hmem => List.mem_append_left _ (List.mem_cons_of_mem _ hmem)
  · rw [walkNode, hremoved, Bool.eq_false_iff.2 hallowed]
    exact fun h hmem => by simpa using hmem

/-- **Every policy that keeps such an element loses content.** In SVG the element takes in the text
behind it, and the writer leaves that out. -/
theorem exists_hidden_of_keepsElement {tag : String} (htag : tag ∈ voidInHtmlOnly)
    (hkeeps : s.policy.keepsElement tag = true)
    (hsvg : s.policy.removesWithContent "svg" = false) (hlength : 14 ≤ s.policy.maxInputLength) :
    ∃ html nodes r, s.sanitize html = .ok r ∧ read? html = some nodes ∧ r = s.sanitizeNodes nodes ∧
      ∃ h ∈ holdings (s.walkForest nodes).kept, h.element.tag = tag ∧ h.nodes = [.text "x"] := by
  have hshort : ∀ tag ∈ voidInHtmlOnly, ("<svg><" ++ tag ++ ">x").utf8ByteSize ≤ 14 := by decide
  have hfree : ∀ tag ∈ voidInHtmlOnly, Rule.requiresSource tag = false := by decide
  have hread := read?_embedded tag htag
  refine ⟨_, _, _, ?_, hread, rfl, ?_⟩
  · have hfits : ¬s.policy.maxInputLength < ("<svg><" ++ tag ++ ">x").utf8ByteSize :=
      Nat.not_lt.2 (Nat.le_trans (hshort tag htag) hlength)
    rw [sanitize, readWithin, if_neg hfits, hread]
    rfl
  · obtain ⟨hallowed, hremoved⟩ := Bool.and_eq_true_iff.1 hkeeps
    have hinner := @walkNode_of_allowed s tag [] (by simpa using hremoved) hallowed
      (by simp [hfree tag htag]) [.text "x"]
    refine ⟨⟨⟨tag, (s.walkAttributes tag []).kept⟩, [.text "x"]⟩, ?_, rfl, rfl⟩
    rw [walkForest, Walked.kept_append, holdings_append]
    refine List.mem_append_left _ (holdings_walkForest_subset hsvg (by decide) _ _ ?_)
    rw [walkForest, hinner]
    simp [walkForest, walkNode]

/-- A text that stands in a `source` in SVG is kept and not shown, and the report is silent about
it. -/
theorem not_shows_kept_source :
    let s : Sanitizer := ⟨.ofSteps [.allowElement "source" []], none⟩
    ∃ nodes, read? "<svg><source>x" = some nodes ∧
      (s.walkForest nodes).kept = [.element "source" [] [.text "x"]] ∧
      s.sanitize "<svg><source>x" =
        .ok ⟨"<source />", ⟨[.element "svg" .disallowedElement]⟩⟩ ∧
      isVoid "source" = true ∧
      ¬Shows "<source />".toList (allVisits (s.walkForest nodes).kept) := by
  intro s
  have hkept : (s.walkForest [.element "svg" [] [.element "source" [] [.text "x"]]]).kept =
      [.element "source" [] [.text "x"]] := by decide +kernel
  refine ⟨_, read?_embedded "source" (by decide), hkept, eq_ok_of_toOption (by decide +kernel),
    by decide, ?_⟩
  intro hshows
  rw [hkept] at hshows
  have hfound := hshows.infix_of_mem (.text "x") (by simp [allVisits])
  exact absurd (hfound.subset (a := 'x') (by decide)) (by decide)

end Sanitizer

end SafeReadme
