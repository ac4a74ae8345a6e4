import SafeReadme.Proofs.Html.Reread
import SafeReadme.Proofs.Sanitize.UrlFilter

/-!
# URLs that are read again

A URL that the filter gave has no line breaks, and NUL can only stand in it where no scheme and no
slash does. When it is written and read again, it is still one that the filter gives.
-/

namespace SafeReadme

open Html Url

theorem visible_eq_iff {c d : Char} (hnull : d ≠ '\x00') (hreplacement : d ≠ '\ufffd') :
    visible c = d ↔ c = d := by
  unfold visible
  split
  next h =>
    subst h
    exact ⟨fun h => absurd h.symm hreplacement, fun h => absurd h.symm hnull⟩
  · rfl

theorem visible_of_ne {c : Char} (h : c ≠ '\x00') : visible c = c := by
  rw [visible, if_neg h]

theorem rereadValue_of_unbroken {value : String}
    (h : ∀ c ∈ value.toList, isTabOrNewline c = false) :
    rereadValue value = String.ofList (value.toList.map visible) := by
  rw [rereadValue, normalizeNewlines_of_not_mem]
  intro hmem
  exact absurd (h _ hmem) (by decide)

theorem isTabOrNewline_visible {c : Char} (h : isTabOrNewline c = false) :
    isTabOrNewline (visible c) = false := by
  unfold visible
  split
  · decide
  · exact h

theorem isControlOrSpace_visible {c : Char} (h : isControlOrSpace c = false) :
    isControlOrSpace (visible c) = false := by
  unfold visible
  split
  · decide
  · exact h

theorem isClean_map_visible {text : List Char} (h : IsClean text) :
    IsClean (text.map visible) := by
  refine ⟨?_, ?_, ?_⟩
  · intro c hc
    obtain ⟨d, hd, rfl⟩ := List.mem_map.1 hc
    exact isTabOrNewline_visible (h.unbroken d hd)
  · intro c hc
    rw [List.head?_map] at hc
    obtain ⟨d, hd, rfl⟩ := Option.map_eq_some_iff.1 hc
    exact isControlOrSpace_visible (h.head d hd)
  · intro c hc
    rw [List.getLast?_map] at hc
    obtain ⟨d, hd, rfl⟩ := Option.map_eq_some_iff.1 hc
    exact isControlOrSpace_visible (h.last d hd)

/-! ## The kind of a URL -/

theorem schemeState_map_visible (scheme cs : List Char) :
    schemeState scheme (cs.map visible) = schemeState scheme cs := by
  induction cs generalizing scheme with
  | nil => rfl
  | cons c rest ih =>
      rw [List.map_cons, schemeState, schemeState]
      by_cases hc : c = '\x00'
      · subst hc
        rfl
      · rw [visible_of_ne hc, ih]

theorem standardScheme_map_visible (cs : List Char) :
    standardScheme (cs.map visible) = standardScheme cs := by
  cases cs with
  | nil => rfl
  | cons c rest =>
      rw [List.map_cons, standardScheme, standardScheme]
      by_cases hc : c = '\x00'
      · subst hc
        rfl
      · rw [visible_of_ne hc, schemeState_map_visible]

theorem prefix_map_visible {front cs : List Char}
    (hnull : '\x00' ∉ front) (hreplacement : '\ufffd' ∉ front) :
    front <+: cs.map visible ↔ front <+: cs := by
  induction front generalizing cs with
  | nil => simp
  | cons d front ih =>
      rw [List.mem_cons, not_or] at hnull hreplacement
      cases cs with
      | nil => simp
      | cons c rest =>
          rw [List.map_cons, List.cons_prefix_cons, List.cons_prefix_cons,
            ih hnull.2 hreplacement.2, eq_comm,
            visible_eq_iff (Ne.symm hnull.1) (Ne.symm hreplacement.1), eq_comm]

theorem startsAnchor_map_visible (cs : List Char) :
    Link.StartsAnchor (cs.map visible) ↔ Link.StartsAnchor cs := by
  rw [Link.StartsAnchor, Link.StartsAnchor, prefix_map_visible (by decide) (by decide),
    prefix_map_visible (by decide) (by decide)]

theorem isSlash_visible (c : Char) : Link.isSlash (visible c) = Link.isSlash c := by
  by_cases hc : c = '\x00'
  · subst hc
    rfl
  · rw [visible_of_ne hc]

theorem startsSlashes_map_visible (cs : List Char) :
    Link.StartsSlashes (cs.map visible) ↔ Link.StartsSlashes cs := by
  constructor
  · rintro ⟨a, b, rest, heq, ha, hb⟩
    obtain ⟨a', more, rfl, rfl, hmore⟩ := List.map_eq_cons_iff.1 heq
    obtain ⟨b', rest', rfl, rfl, -⟩ := List.map_eq_cons_iff.1 hmore
    rw [isSlash_visible] at ha hb
    exact ⟨a', b', rest', rfl, ha, hb⟩
  · rintro ⟨a, b, rest, rfl, ha, hb⟩
    exact ⟨visible a, visible b, rest.map visible, rfl, by rwa [isSlash_visible],
      by rwa [isSlash_visible]⟩

namespace Rule

variable {policy : Policy} {coordinate : Option Coordinate}

theorem Admitted.map_visible {c : UrlClass} {text : List Char}
    (h : Admitted policy coordinate c text) : Admitted policy coordinate c (text.map visible) := by
  cases h with
  | scheme h =>
      obtain ⟨scheme, hscheme, hallowed⟩ := h
      exact .scheme ⟨scheme, by rwa [standardScheme_map_visible], hallowed⟩
  | anchor h =>
      exact .anchor ⟨by rw [standardScheme_map_visible]; exact h.1,
        (startsAnchor_map_visible text).2 h.2⟩
  | relative h hunknown hallowed =>
      refine .relative ⟨?_, ?_, ?_⟩ hunknown hallowed
      · rw [standardScheme_map_visible]
        exact h.1
      · exact fun hanchor => h.2.1 ((startsAnchor_map_visible text).1 hanchor)
      · exact fun hslashes => h.2.2 ((startsSlashes_map_visible text).1 hslashes)

/-- A value that its rule writes as it is, is still one as it is read again. -/
theorem apply_rereadValue {tag name value : String} (hmade : ∀ r ∈ coordinate, r.Made)
    (h : (forAttribute tag name coordinate.isSome).apply value policy coordinate = .ok value) :
    (forAttribute tag name coordinate.isSome).apply (rereadValue value) policy coordinate =
      .ok (rereadValue value) := by
  cases hclass : urlClass tag name with
  | none =>
      rw [forAttribute, hclass]
      rfl
  | some c =>
      rw [forAttribute_of_urlClass hclass, apply_forUrl] at h ⊢
      obtain ⟨hclean, hne, hadmitted⟩ := clean_admitted_of_applyUrl hmade h
      rw [rereadValue_of_unbroken hclean.unbroken]
      apply applyUrl_of_admitted
      · rw [String.toList_ofList]
        exact isClean_map_visible hclean
      · intro hempty
        apply hne
        rw [← String.toList_inj, String.toList_ofList] at hempty
        rw [← String.toList_inj]
        simpa using hempty
      · rw [String.toList_ofList]
        exact hadmitted.map_visible

end Rule

end SafeReadme
