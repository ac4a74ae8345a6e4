import SafeReadme.Proofs.Html.OneTag
import SafeReadme.Proofs.Sanitize.Allowlist
import SafeReadme.Proofs.Sanitize.UrlFilter

/-!
# Which policies have no way around the scheme filter

The filter is reached through a table of elements and attributes, and a policy can let attributes
through that the table does not know. `Policy.Guards` says that a policy lets none of the attributes
through that hold a URL but those that are filtered. Under such policies, and under no others, every
scheme in the output is one that is allowed. A document of one start tag is enough to get around the
filter.
-/

namespace SafeReadme

open Html Url

/-- The attributes that HTML or SVG defines as holding a URL to go to, to send to or to fetch. -/
def urlAttributes : List String :=
  ["href", "xlink:href", "src", "cite", "poster", "action", "formaction", "data", "background"]

namespace Policy

/-- An attribute can stand on an element with a value of the source. -/
structure LetsThrough (p : Policy) (tag name : String) : Prop where
  notRemoved : p.removesWithContent tag = false
  granted : p.allowsAttribute tag name = true
  free : name ∉ (p.forcedAttributes tag).map Prod.fst
  /-- An element that is nothing without a source can have one. -/
  source : Rule.requiresSource tag = true →
    p.allowsAttribute tag "src" = true ∨ "src" ∈ (p.forcedAttributes tag).map Prod.fst

/-- Every URL of the source that can stand in the output goes through the filter. -/
def Guards (p : Policy) : Prop :=
  ∀ tag, ∀ name ∈ urlAttributes, p.LetsThrough tag name → (Rule.urlClass tag name).isSome = true

/-- A scheme that a browser reads in a value is allowed for links or for media. -/
def AdmitsScheme (p : Policy) (value : String) : Prop :=
  ∀ text scheme, Reads value.toList text → standardScheme text = some scheme →
    ∃ c, p.allowsScheme c (String.ofList scheme) = true

theorem allowsElement_of_allowsAttribute {p : Policy} {tag name : String}
    (h : p.allowsAttribute tag name = true) : p.allowsElement tag = true := by
  unfold allowsAttribute at h
  split at h
  · cases h
  next attributes hfind => simp [allowsElement, NameMap.contains, hfind]

end Policy

/-! ## Guarded policies -/

theorem Rule.admitsScheme_of_apply {p : Policy} {coordinate : Option Coordinate}
    (hmade : ∀ r ∈ coordinate, r.Made) {tag name value out : String} {c : UrlClass}
    (hclass : urlClass tag name = some c)
    (h : (forAttribute tag name coordinate.isSome).apply value p coordinate = .ok out) :
    p.AdmitsScheme out := by
  rw [forAttribute_of_urlClass hclass, apply_forUrl] at h
  obtain ⟨hclean, -, hadmitted⟩ := clean_admitted_of_applyUrl hmade h
  intro text scheme hreads hscheme
  have htext : text = out.toList := by
    rw [hreads.eq_canonical, String.ofList_toList, (canonical_eq_self_iff out).2 hclean]
  rw [htext] at hscheme
  cases hadmitted with
  | scheme h =>
      obtain ⟨scheme', hscheme', hallowed⟩ := h
      rw [hscheme] at hscheme'
      cases hscheme'
      exact ⟨c, hallowed⟩
  | anchor h =>
      rw [h.1] at hscheme
      cases hscheme
  | relative h _ _ =>
      rw [h.1] at hscheme
      cases hscheme

namespace Sanitizer

variable {s : Sanitizer}

theorem exists_apply_of_mem_walkAttributes {tag : String} {source : List Attribute} {a : Attribute}
    (ha : a ∈ (s.walkAttributes tag source).kept)
    (hfree : a.name ∉ (s.policy.forcedAttributes tag).map Prod.fst) :
    ∃ value, (Rule.forAttribute tag a.name s.coordinate.isSome).apply value s.policy
      s.coordinate = .ok a.value := by
  rw [kept_walkAttributes, List.mem_append] at ha
  rcases ha with ha | ha
  · obtain ⟨-, b, -, hname, hpasses⟩ := mem_kept_walkSource ha
    rcases hpasses with hforced | ⟨-, -, hvalue⟩
    · have hmem := List.mem_map_of_mem (f := Prod.fst) (mem_of_lookup_eq_some hforced)
      rw [hname] at hmem
      exact absurd hmem hfree
    · rw [hname] at hvalue
      exact ⟨b.value, hvalue⟩
  · exact absurd (List.mem_map_of_mem (f := Prod.fst) (mem_missingForced.1 ha).1) hfree

theorem Keeps.letsThrough {e : Element} (h : s.Keeps e) {a : Attribute} (ha : a ∈ e.attributes)
    (hfree : a.name ∉ (s.policy.forcedAttributes e.tag).map Prod.fst) :
    s.policy.LetsThrough e.tag a.name := by
  obtain ⟨source, hfiltered⟩ := h.filtered
  have hgranted : ∀ b ∈ e.attributes, b.name ∉ (s.policy.forcedAttributes e.tag).map Prod.fst →
      s.policy.allowsAttribute e.tag b.name = true := by
    intro b hb
    rw [hfiltered] at hb
    exact allowsAttribute_of_mem_walkAttributes hb
  refine ⟨h.notRemoved, hgranted a ha hfree, hfree, fun hrequires => ?_⟩
  obtain ⟨b, hb, hname⟩ := mem_names.1 (h.hasSource hrequires)
  by_cases hforced : "src" ∈ (s.policy.forcedAttributes e.tag).map Prod.fst
  · exact .inr hforced
  · rw [← hname] at hforced ⊢
    exact .inl (hgranted b hb hforced)

theorem Keeps.admitsScheme {e : Element} (h : s.Keeps e) (hmade : ∀ r ∈ s.coordinate, r.Made)
    (hguards : s.policy.Guards) {a : Attribute} (ha : a ∈ e.attributes)
    (hname : a.name ∈ urlAttributes)
    (hfree : a.name ∉ (s.policy.forcedAttributes e.tag).map Prod.fst) :
    s.policy.AdmitsScheme a.value := by
  obtain ⟨c, hclass⟩ := Option.isSome_iff_exists.1
    (hguards e.tag a.name hname (h.letsThrough ha hfree))
  obtain ⟨source, hfiltered⟩ := h.filtered
  rw [hfiltered] at ha
  obtain ⟨value, hvalue⟩ := exists_apply_of_mem_walkAttributes ha hfree
  exact Rule.admitsScheme_of_apply hmade hclass hvalue

end Sanitizer

/-! ## Ways around the filter -/

theorem NameSet.exists_bound (set : NameSet) :
    ∃ bound, ∀ name, set.contains name = true → name.length ≤ bound :=
  ⟨(set.keys.map String.length).max?.getD 0, fun name hname =>
    List.le_max?_getD_of_mem
      (List.mem_map_of_mem ((NameMap.contains_iff_mem_keys set name).1 hname))⟩

/-- Some scheme is not allowed: the allowed ones are bounded in length. -/
theorem Policy.exists_not_allowsScheme (p : Policy) :
    ∃ count, ∀ c, p.allowsScheme c (String.ofList (List.replicate (count + 1) 'a')) = false := by
  obtain ⟨links, hlinks⟩ := NameSet.exists_bound p.linkSchemes
  obtain ⟨media, hmedia⟩ := NameSet.exists_bound p.mediaSchemes
  refine ⟨links + media, fun c => ?_⟩
  rw [← Bool.not_eq_true]
  intro h
  have hlength : (String.ofList (List.replicate (links + media + 1) 'a')).length =
      links + media + 1 := by
    rw [String.length_ofList, List.length_replicate]
  cases c with
  | link =>
      have hle := hlinks _ h
      omega
  | media =>
      have hle := hmedia _ h
      omega

theorem Url.reads_scheme (count : Nat) :
    let scheme := List.replicate (count + 1) 'a'
    Reads (scheme ++ [':']) (scheme ++ [':']) ∧ standardScheme (scheme ++ [':']) = some scheme := by
  intro scheme
  have hmem : ∀ c ∈ scheme ++ [':'], c = 'a' ∨ c = ':' := by
    intro c hc
    rcases List.mem_append.1 hc with hc | hc
    · exact .inl (List.eq_of_mem_replicate hc)
    · exact .inr (List.mem_singleton.1 hc)
  have hvisible : ∀ c ∈ scheme ++ [':'], isControlOrSpace c = false ∧ isTabOrNewline c = false := by
    intro c hc
    rcases hmem c hc with rfl | rfl <;> decide
  constructor
  · apply IsClean.reads
    exact ⟨fun c hc => (hvisible c hc).2, fun c hc => (hvisible c (List.mem_of_head? hc)).1,
      fun c hc => (hvisible c (List.mem_of_getLast? hc)).1⟩
  · have hletters : ∀ c ∈ List.replicate count 'a', (c != ':') = true := by
      intro c hc
      rw [List.eq_of_mem_replicate hc]
      decide
    have htake : (List.replicate count 'a' ++ [':']).takeWhile (· != ':') =
        List.replicate count 'a' := by
      rw [List.takeWhile_append_of_pos hletters]
      simp
    have hscheme : (List.replicate count 'a').all isSchemeChar = true := by
      rw [List.all_replicate]
      split <;> simp [isSchemeChar]
    show (if 'a'.isAlpha then schemeState ['a'.toLower] (List.replicate count 'a' ++ [':'])
      else none) = _
    rw [if_pos (by decide), schemeState_eq, htake, if_pos ⟨by simp, hscheme⟩, List.map_replicate]
    rfl

/-- Every policy keeps some value out, and it can stand in a document. -/
theorem Policy.exists_not_admitsScheme (p : Policy) :
    ∃ value : String, ¬p.AdmitsScheme value ∧ '\r' ∉ value.toList ∧ '\x00' ∉ value.toList := by
  obtain ⟨count, hcount⟩ := p.exists_not_allowsScheme
  obtain ⟨hreads, hscheme⟩ := Url.reads_scheme count
  refine ⟨String.ofList (List.replicate (count + 1) 'a' ++ [':']), fun hadmits => ?_, ?_, ?_⟩
  · rw [← String.toList_ofList (l := List.replicate (count + 1) 'a' ++ [':'])] at hreads hscheme
    obtain ⟨c, hallowed⟩ := hadmits _ _ hreads hscheme
    rw [hcount c] at hallowed
    cases hallowed
  · simp
  · simp

namespace Sanitizer

/-- An anchor stands on every element that can have a source. -/
theorem exists_passes_source {s : Sanitizer} {tag : String}
    (hsource : s.policy.allowsAttribute tag "src" = true ∨
      "src" ∈ (s.policy.forcedAttributes tag).map Prod.fst) :
    ∃ value, s.Passes tag ⟨"src", "#"⟩ value := by
  cases hforced : (s.policy.forcedAttributes tag).lookup "src" with
  | some value => exact ⟨value, .inl hforced⟩
  | none =>
      have hallowed : s.policy.allowsAttribute tag "src" = true := by
        refine hsource.resolve_right fun hmem => ?_
        obtain ⟨forced, hforced', hname⟩ := List.mem_map.1 hmem
        have hne := List.lookup_eq_none_iff.1 hforced forced hforced'
        simp [hname] at hne
      refine ⟨"#", .inr ⟨hforced, hallowed, ?_⟩⟩
      cases hclass : Rule.urlClass tag "src" with
      | none =>
          rw [Rule.forAttribute, hclass]
          rfl
      | some c =>
          rw [Rule.forAttribute_of_urlClass hclass, Rule.apply_forUrl]
          apply Rule.applyUrl_of_admitted
          · decide
          · decide
          · exact .anchor ⟨by decide, .inl ⟨[], rfl⟩⟩

def sourceOf (name value : String) : List Attribute :=
  ⟨name, value⟩ :: if name = "src" then [] else [⟨"src", "#"⟩]

/-- An attribute that the table does not know is kept with whatever value it has. -/
theorem exists_kept_of_letsThrough {s : Sanitizer} {tag name : String}
    (h : s.policy.LetsThrough tag name) (hclass : Rule.urlClass tag name = none) (value : String) :
    ∃ e ∈ elements (s.walkForest [.element tag (sourceOf name value) []]).kept, e.tag = tag ∧
      ⟨name, value⟩ ∈ e.attributes := by
  have hunforced : (s.policy.forcedAttributes tag).lookup name = none :=
    lookup_eq_none_of_not_mem h.free
  have hpasses : s.Passes tag ⟨name, value⟩ value := by
    refine .inr ⟨hunforced, h.granted, ?_⟩
    rw [Rule.forAttribute, hclass]
    rfl
  have hkept : (s.walkAttributes tag (sourceOf name value)).kept =
      ⟨name, value⟩ ::
        (s.walkSource tag [name] (if name = "src" then [] else [⟨"src", "#"⟩])).kept ++
          s.missingForced tag (sourceOf name value) := by
    rw [kept_walkAttributes, sourceOf, walkSource, walkAttribute_of_passes (by simp) hpasses]
    rfl
  have hsource : Rule.requiresSource tag = true →
      "src" ∈ names (s.walkAttributes tag (sourceOf name value)).kept := by
    intro hrequires
    rw [hkept, mem_names]
    by_cases hname : name = "src"
    · exact ⟨⟨name, value⟩, by simp, hname⟩
    · obtain ⟨anchor, hanchor⟩ := exists_passes_source (h.source hrequires)
      rw [if_neg hname, walkSource,
        walkAttribute_of_passes (by simpa using Ne.symm hname) hanchor]
      exact ⟨⟨"src", anchor⟩, by simp, rfl⟩
  have hallowed := Policy.allowsElement_of_allowsAttribute h.granted
  refine ⟨⟨tag, (s.walkAttributes tag (sourceOf name value)).kept⟩, ?_, rfl, ?_⟩
  · rw [walkForest, walkForest, walkNode_of_allowed h.notRemoved hallowed hsource]
    simp
  · rw [hkept]
    simp

/-- **The scheme filter is complete exactly for guarded policies.** That every scheme in every
attribute of the output that holds a URL is allowed, but for what the policy itself sets, is the same
as that the policy lets no such attribute through which the filter does not see. -/
theorem admitsScheme_iff_guards (p : Policy) (coordinate : Option Coordinate)
    (hmade : ∀ r ∈ coordinate, r.Made) :
    (∀ nodes, ∀ e ∈ elements (walkForest ⟨p, coordinate⟩ nodes).kept, ∀ a ∈ e.attributes,
      a.name ∈ urlAttributes → a.name ∉ (p.forcedAttributes e.tag).map Prod.fst →
        p.AdmitsScheme a.value) ↔ p.Guards := by
  constructor
  · intro hadmits tag name hname hthrough
    by_contra hunknown
    rw [Option.not_isSome_iff_eq_none] at hunknown
    obtain ⟨value, hvalue, -⟩ := p.exists_not_admitsScheme
    obtain ⟨e, he, rfl, ha⟩ := exists_kept_of_letsThrough (s := ⟨p, coordinate⟩) hthrough hunknown
      value
    exact hvalue (hadmits _ e he _ ha hname hthrough.free)
  · intro hguards nodes e he a ha hname hfree
    exact (keeps_of_mem_walkForest _ nodes e he).admitsScheme hmade hguards ha hname hfree

end Sanitizer

/-! ## Documents -/

/-- A start tag with this attribute is read as it is written, at the start of a document. -/
structure Html.StartsWith (tag name : String) : Prop where
  element : StartsElement tag
  plain : isPlainName tag = true ∧ isPlainName name = true

/-- No vocabulary spells an attribute that holds a URL in a way of its own. -/
theorem attributeSpelling_of_mem_urlAttributes (vocabulary : Vocabulary) {name : String}
    (h : name ∈ urlAttributes) : attributeSpelling vocabulary name = name := by
  have hnames : ∀ name ∈ urlAttributes, name ≠ "xmlns" ∧ name ≠ "definitionurl" ∧
      ∀ s ∈ svgAttributes, s.toList.map Char.toLower ≠ name.toList := by
    decide +kernel
  obtain ⟨hspace, hdefinition, hsvg⟩ := hnames name h
  cases vocabulary with
  | html => rfl
  | math => simp [attributeSpelling, hspace, hdefinition]
  | svg =>
      have hfind : svgAttributes.find? (fun s => s.toLower == name) = none := by
        rw [List.find?_eq_none]
        intro s hs heq
        refine hsvg s hs ?_
        rw [← beq_iff_eq.1 heq]
        exact String.toList_map.symm
      simp [attributeSpelling, hspace, hfind]

namespace Sanitizer

theorem read?_sourceOf {tag name value : String} (hstarts : StartsWith tag name)
    (hname : name ∈ urlAttributes) (hvalue : '\r' ∉ value.toList ∧ '\x00' ∉ value.toList) :
    read? (String.ofList (Piece.opening tag (sourceOf name value)).chars) =
      some [.element tag (sourceOf name value) []] := by
  have hmem : ∀ a ∈ sourceOf name value, a.name ∈ urlAttributes ∧ isPlainName a.name = true ∧
      '\r' ∉ a.value.toList ∧ '\x00' ∉ a.value.toList := by
    intro a ha
    rcases List.mem_cons.1 ha with rfl | ha
    · exact ⟨hname, hstarts.plain.2, hvalue⟩
    · split at ha
      · cases ha
      · cases List.mem_singleton.1 ha
        exact ⟨by decide, by decide, by decide⟩
  have hdistinct : (names (sourceOf name value)).Nodup := by
    unfold sourceOf
    split
    · simp [names]
    next hother => simp [names, hother]
  have hspelling : spellAttributes (.ofTag tag) (sourceOf name value) = sourceOf name value := by
    refine map_eq_self fun a ha => ?_
    rw [attributeSpelling_of_mem_urlAttributes _ (hmem a ha).1]
  rw [read?_opening ⟨hstarts.plain.1, fun a ha => (hmem a ha).2.1, hdistinct⟩
    (fun a ha => (hmem a ha).2.2) hstarts.element, hspelling]

/-- **A document can take each way around the filter** that does not depend on what it stands in. -/
theorem exists_unadmitted_of_startsWith {p : Policy} (coordinate : Option Coordinate)
    {tag name : String} (hthrough : p.LetsThrough tag name) (hname : name ∈ urlAttributes)
    (hunknown : Rule.urlClass tag name = none) (hstarts : StartsWith tag name) :
    ∃ html nodes, read? html = some nodes ∧
      ∃ e ∈ elements (walkForest ⟨p, coordinate⟩ nodes).kept, e.tag = tag ∧
        ∃ a ∈ e.attributes, a.name = name ∧ ¬p.AdmitsScheme a.value := by
  obtain ⟨value, hvalue, hchars⟩ := p.exists_not_admitsScheme
  obtain ⟨e, he, htag, ha⟩ := exists_kept_of_letsThrough (s := ⟨p, coordinate⟩) hthrough hunknown
    value
  exact ⟨_, _, read?_sourceOf hstarts hname hchars, e, he, htag, _, ha, rfl, hvalue⟩

/-- The filter is complete over documents exactly for guarded policies, if what a policy lets through
can stand at the start of a document. -/
theorem admitsScheme_read_iff_guards (p : Policy) (coordinate : Option Coordinate)
    (hmade : ∀ r ∈ coordinate, r.Made)
    (hstarts : ∀ tag, ∀ name ∈ urlAttributes, p.LetsThrough tag name → StartsWith tag name) :
    (∀ html nodes, read? html = some nodes → ∀ e ∈ elements (walkForest ⟨p, coordinate⟩ nodes).kept,
      ∀ a ∈ e.attributes, a.name ∈ urlAttributes →
        a.name ∉ (p.forcedAttributes e.tag).map Prod.fst → p.AdmitsScheme a.value) ↔ p.Guards := by
  constructor
  · intro hadmits tag name hname hthrough
    by_contra hunknown
    rw [Option.not_isSome_iff_eq_none] at hunknown
    obtain ⟨html, nodes, hread, e, he, rfl, a, ha, rfl, hvalue⟩ :=
      exists_unadmitted_of_startsWith coordinate hthrough hname hunknown
        (hstarts tag name hname hthrough)
    exact hvalue (hadmits html nodes hread e he a ha hname hthrough.free)
  · intro hguards html nodes _ e he a ha hname hfree
    exact (keeps_of_mem_walkForest _ nodes e he).admitsScheme hmade hguards ha hname hfree

end Sanitizer

/-! ## The Packagist policy -/

theorem Policy.guards_packagist : packagist.Guards := by
  have hentries : ∀ entry ∈ packagist.elements.entries, ∀ name ∈ urlAttributes,
      (entry.2.contains name || packagist.globalAttributes.contains name) = true →
        (Rule.urlClass entry.1 name).isSome = true := by
    decide +kernel
  intro tag name hname hthrough
  have hgranted := hthrough.granted
  unfold allowsAttribute at hgranted
  split at hgranted
  · cases hgranted
  next attributes hfind =>
    exact hentries (tag, attributes) (mem_of_lookup_eq_some hfind) name hname hgranted

namespace Sanitizer

/-- The Packagist policy is guarded, so no scheme comes through in the README of a repository but
those that are allowed. -/
theorem admitsScheme_iff_guards_packagist :
    let r : Coordinate := ⟨"github.com", "o/r", []⟩
    r.Made ∧ Policy.packagist.Guards ∧
      ∀ nodes, ∀ e ∈ elements (walkForest ⟨.packagist, some r⟩ nodes).kept, ∀ a ∈ e.attributes,
        a.name ∈ urlAttributes →
          a.name ∉ (Policy.packagist.forcedAttributes e.tag).map Prod.fst →
            Policy.packagist.AdmitsScheme a.value := by
  intro r
  have hmade : r.Made := ⟨"github.com", "o/r", "", eq_ok_of_toOption (by decide +kernel)⟩
  have hcoordinate : ∀ r' ∈ some r, r'.Made := by
    rintro r' ⟨⟩
    exact hmade
  exact ⟨hmade, Policy.guards_packagist,
    (admitsScheme_iff_guards .packagist (some r) hcoordinate).2 Policy.guards_packagist⟩

/-! ## A form -/

/-- A form sends its data to an address that the filter does not see. -/
theorem elements_walkForest_form :
    (read? "<form action=\"javascript:x\">y</form>").map (fun nodes =>
        elements (walkForest ⟨.ofSteps [.allowElement "form" ["action"]], none⟩ nodes).kept) =
      some [⟨"form", [⟨"action", "javascript:x"⟩]⟩] := by
  decide +kernel

/-- A policy that allows the address of a form lets any scheme through in it. -/
theorem not_admitsScheme_form :
    ¬∀ (steps : List Step) (coordinate : Option Coordinate) (html : String) (nodes : List Node),
      (∀ r ∈ coordinate, r.Made) → read? html = some nodes →
      ∀ e ∈ elements (walkForest ⟨.ofSteps steps, coordinate⟩ nodes).kept, ∀ a ∈ e.attributes,
        a.name ∈ urlAttributes →
          a.name ∉ ((Policy.ofSteps steps).forcedAttributes e.tag).map Prod.fst →
            (Policy.ofSteps steps).AdmitsScheme a.value := by
  intro h
  obtain ⟨nodes, hread, hkept⟩ := Option.map_eq_some_iff.1 elements_walkForest_form
  have hreads : Reads "javascript:x".toList "javascript:x".toList :=
    IsClean.reads (by decide)
  obtain ⟨c, hallowed⟩ := h _ none _ nodes (by simp) hread ⟨"form", [⟨"action", "javascript:x"⟩]⟩
    (by rw [hkept]; simp) ⟨"action", "javascript:x"⟩ (by simp) (by decide) (by decide +kernel)
    _ "javascript".toList hreads (by decide)
  revert hallowed
  cases c <;> decide +kernel

end Sanitizer

end SafeReadme
