import SafeReadme.Proofs.Html.Unique
import SafeReadme.Proofs.Sanitize.RereadUrl
import SafeReadme.Proofs.Sanitize.Settled
import SafeReadme.Sanitize.Walk

/-!
# Sanitizing twice

A reader may find another tree in the output of the sanitizer than the one that was written: it moves
content out of tables, splits formatting and adds the parts of a table that are left out. But every
element of that tree is settled, so a second pass drops nothing. What it writes can only differ from
its input as the reader's tree differs from the one that was written.
-/

namespace SafeReadme

open Html

/-- What it takes of a policy that what its walk keeps is read again without new kinds of elements:
names are read as they are written, no allowed element changes how its content is read, and those
that a document may leave out are allowed. -/
structure Policy.Rereadable (p : Policy) : Prop where
  plainTag : ∀ tag, p.allowsElement tag = true → isPlainName tag = true
  plainAttribute : ∀ tag name, p.allowsAttribute tag name = true → isPlainName name = true
  plainForced : ∀ tag, ∀ forced ∈ p.forcedAttributes tag,
    isPlainName forced.1 = true ∧ rereadValue forced.2 = forced.2
  ordinary : ∀ tag, p.allowsElement tag = true → tag ≠ "image" ∧ tag ≠ "col" ∧
    (BodyStart.ofTag tag).textMode? tag = none ∧ (BodyStart.ofTag tag).vocabulary? = none
  implied : ∀ tag ∈ ["p", "br", "tbody", "tr"], p.allowsElement tag = true ∧
    p.removesWithContent tag = false ∧ p.forcedAttributes tag = []

namespace Sanitizer

variable {s : Sanitizer}

/-! ## Settled elements that are read again -/

theorem Settled.plain {e : Element} (h : s.Settled e) (hp : s.policy.Rereadable) : e.Plain := by
  refine ⟨hp.plainTag _ h.allowed, ?_, h.distinct⟩
  intro a ha
  rcases h.passes a ha with hforced | ⟨-, hallowed, -⟩
  · exact (hp.plainForced _ _ (mem_of_lookup_eq_some hforced)).1
  · exact hp.plainAttribute _ _ hallowed

theorem Settled.reread {e : Element} (h : s.Settled e) (hp : s.policy.Rereadable)
    (hmade : ∀ r ∈ s.coordinate, r.Made) :
    s.Settled ⟨e.tag, e.attributes.map Attribute.reread⟩ where
  allowed := h.allowed
  notRemoved := h.notRemoved
  distinct := by
    rw [names_map_reread]
    exact h.distinct
  passes := by
    intro b hb
    obtain ⟨a, ha, rfl⟩ := List.mem_map.1 hb
    rcases h.passes a ha with hforced | ⟨hfree, hallowed, hvalue⟩
    · have hvalue := (hp.plainForced _ _ (mem_of_lookup_eq_some hforced)).2
      left
      show _ = some (rereadValue a.value)
      rw [hvalue]
      exact hforced
    · exact .inr ⟨hfree, hallowed, Rule.apply_rereadValue hmade hvalue⟩
  complete := by
    rw [names_map_reread]
    exact h.complete
  hasSource := by
    rw [names_map_reread]
    exact h.hasSource

theorem settled_implied (hp : s.policy.Rereadable) {tag : String}
    (htag : tag ∈ ["p", "br", "tbody", "tr"]) : s.Settled ⟨tag, []⟩ := by
  obtain ⟨hallowed, hremoved, hforced⟩ := hp.implied tag htag
  have hsource : ∀ tag ∈ ["p", "br", "tbody", "tr"], Rule.requiresSource tag = false := by decide
  exact {
    allowed := hallowed
    notRemoved := hremoved
    distinct := List.nodup_nil
    passes := fun a ha => by cases ha
    complete := fun forced hmem => by
      rw [hforced] at hmem
      cases hmem
    hasSource := fun hrequires => by
      rw [hsource tag htag] at hrequires
      cases hrequires }

theorem closed_settled (hp : s.policy.Rereadable) :
    Closed (fun name attributes => name.vocabulary = .html ∧ s.Settled ⟨name.tag, attributes⟩)
      (· = .data) (fun tag => s.Settled ⟨tag.name, tag.attributes⟩) where
  html := fun h => ⟨rfl, h⟩
  image := fun h himage => absurd himage (hp.ordinary _ h.allowed).1
  lineBreak := settled_implied hp (by decide)
  paragraph := ⟨rfl, settled_implied hp (by decide)⟩
  rowGroup := ⟨rfl, settled_implied hp (by decide)⟩
  row := ⟨rfl, settled_implied hp (by decide)⟩
  columnGroup := fun h hcol => absurd hcol (hp.ordinary _ h.allowed).2.1
  embedded := fun h hvocabulary => by
    rw [(hp.ordinary _ h.allowed).2.2.2] at hvocabulary
    cases hvocabulary
  nested := fun _ hforeign hhtml => absurd hhtml.1 hforeign
  data := rfl
  textMode := fun h hmode => by
    rw [(hp.ordinary _ h.allowed).2.2.1] at hmode
    cases hmode

/-- **What settled elements are read as is settled**, whatever the reader moves, copies or adds. -/
theorem settled_of_read?_write (hp : s.policy.Rereadable) (hmade : ∀ r ∈ s.coordinate, r.Made)
    {nodes again : List Node} (h : ∀ e ∈ elements nodes, s.Settled e)
    (hread : read? (write nodes) = some again) : ∀ e ∈ elements again, s.Settled e := by
  intro e he
  obtain ⟨vocabulary, hsettled⟩ := within_reread (closed_settled hp)
    (fun e he => (h e he).plain hp) (fun e he => (h e he).reread hp hmade) hread e he
  exact hsettled.2

/-! ## A second pass -/

/-- A second pass writes the tree that it reads, and drops nothing. -/
theorem sanitize_again (hp : s.policy.Rereadable) (hmade : ∀ r ∈ s.coordinate, r.Made)
    (hforced : ∀ tag, ((s.policy.forcedAttributes tag).map Prod.fst).Nodup)
    {html : String} {r r' : Rendered} (h : s.sanitize html = .ok r)
    (h' : s.sanitize r.html = .ok r') :
    ∃ nodes again, read? html = some nodes ∧ r = ⟨write (s.walkForest nodes).kept,
        ⟨(s.walkForest nodes).drops⟩⟩ ∧
      read? r.html = some again ∧ r' = ⟨write again, ⟨[]⟩⟩ ∧
        (∀ e ∈ elements (s.walkForest nodes).kept, s.Settled e) ∧
          ∀ e ∈ elements again, s.Settled e := by
  obtain ⟨nodes, hread, rfl⟩ := exists_read_of_sanitize h
  obtain ⟨again, hagain, rfl⟩ := exists_read_of_sanitize h'
  have hkept : ∀ e ∈ elements (s.walkForest nodes).kept, s.Settled e :=
    fun e he => (keeps_of_mem_walkForest s nodes e he).settled hmade (hforced e.tag)
  have hsettled := settled_of_read?_write hp hmade hkept hagain
  refine ⟨nodes, again, hread, rfl, hagain, ?_, hkept, hsettled⟩
  rw [sanitizeNodes, walkForest_of_settled again hsettled]

/-- A second pass changes nothing exactly where the reader finds the tags and the text that were
written. -/
theorem write_eq_iff (hp : s.policy.Rereadable) {nodes again : List Node}
    (hnodes : ∀ e ∈ elements nodes, s.Settled e) (hagain : ∀ e ∈ elements again, s.Settled e) :
    write again = write nodes ↔ pieces again = pieces nodes := by
  rw [← String.toList_inj, toList_write, toList_write]
  constructor
  · exact flatMap_chars_inj (plain_of_mem_pieces fun e he => (hagain e he).plain hp)
      (plain_of_mem_pieces fun e he => (hnodes e he).plain hp)
  · intro h
    rw [h]

end Sanitizer

/-! ## The Packagist policy -/

namespace Policy

theorem ordinary_packagist : ∀ tag ∈ packagist.elements.keys,
    isPlainName tag = true ∧ tag ≠ "image" ∧ tag ≠ "col" ∧
      (BodyStart.ofTag tag).textMode? tag = none ∧ (BodyStart.ofTag tag).vocabulary? = none := by
  decide +kernel

theorem plain_attributes_packagist :
    (∀ entry ∈ packagist.elements.entries, ∀ name ∈ entry.2.keys, isPlainName name = true) ∧
      ∀ name ∈ packagist.globalAttributes.keys, isPlainName name = true := by
  decide +kernel

theorem plain_forced_packagist : ∀ entry ∈ packagist.forced.entries, ∀ forced ∈ entry.2,
    isPlainName forced.1 = true ∧ rereadValue forced.2 = forced.2 := by
  decide +kernel

theorem implied_packagist : ∀ tag ∈ ["p", "br", "tbody", "tr"],
    packagist.allowsElement tag = true ∧ packagist.removesWithContent tag = false ∧
      packagist.forcedAttributes tag = [] := by
  decide +kernel

theorem rereadable_packagist : packagist.Rereadable where
  plainTag := fun tag h => (ordinary_packagist tag ((NameMap.contains_iff_mem_keys _ _).1 h)).1
  plainAttribute := fun tag name h => by
    unfold allowsAttribute at h
    split at h
    · cases h
    next attributes hfind =>
      rcases Bool.or_eq_true_iff.1 h with h | h
      · exact plain_attributes_packagist.1 _ (mem_of_lookup_eq_some hfind) name
          ((NameMap.contains_iff_mem_keys _ _).1 h)
      · exact plain_attributes_packagist.2 name ((NameMap.contains_iff_mem_keys _ _).1 h)
  plainForced := fun tag forced h => by
    unfold forcedAttributes at h
    cases hfind : packagist.forced.find? tag with
    | none =>
        rw [hfind] at h
        cases h
    | some attributes =>
        rw [hfind] at h
        exact plain_forced_packagist _ (mem_of_lookup_eq_some hfind) forced h
  ordinary := fun tag h => (ordinary_packagist tag ((NameMap.contains_iff_mem_keys _ _).1 h)).2
  implied := implied_packagist

theorem forcedAttributes_packagist_nodup (tag : String) :
    ((packagist.forcedAttributes tag).map Prod.fst).Nodup :=
  forcedAttributes_ofSteps_nodup packagistSteps tag

end Policy

namespace Sanitizer

/-- **Nothing that the policy would drop can come out of its own output.** Whatever the reader makes
of a sanitized document, a second pass finds nothing to take out. -/
theorem report_eq_nil_of_sanitize_again {coordinate : Option Coordinate}
    (hmade : ∀ r ∈ coordinate, r.Made) {html : String} {r r' : Rendered}
    (h : Sanitizer.sanitize ⟨.packagist, coordinate⟩ html = .ok r)
    (h' : Sanitizer.sanitize ⟨.packagist, coordinate⟩ r.html = .ok r') : r'.report = ⟨[]⟩ := by
  obtain ⟨nodes, again, -, -, -, rfl, -, -⟩ := sanitize_again (s := ⟨.packagist, coordinate⟩)
    Policy.rereadable_packagist hmade Policy.forcedAttributes_packagist_nodup h h'
  rfl

/-- Formatting that a block overlaps, text between the parts of a table, and an image of a
repository. -/
theorem report_eq_nil_of_sanitize_again_table :
    let coordinate : Coordinate := ⟨"github.com", "o/r", []⟩
    let s : Sanitizer := ⟨.packagist, some coordinate⟩
    coordinate.Made ∧ ∃ r r', s.sanitize "<b><p>a</b>b<u><table>c<td><img src=d>" = .ok r ∧
      s.sanitize r.html = .ok r' ∧ r.report.drops.length = 2 ∧ r'.report = ⟨[]⟩ := by
  intro coordinate s
  let html := "<b></b><p><b>a</b>b</p>c<table><tbody><tr><td>" ++
    "<img src=\"https://raw.githubusercontent.com/o/r/HEAD/d\" /></td></tr></tbody></table>"
  have hmade : coordinate.Made := ⟨"github.com", "o/r", "", eq_ok_of_toOption (by decide +kernel)⟩
  have hfirst : s.sanitize "<b><p>a</b>b<u><table>c<td><img src=d>" =
      .ok ⟨html, ⟨[.element "u" .disallowedElement, .element "u" .disallowedElement]⟩⟩ :=
    eq_ok_of_toOption (by decide +kernel)
  have hsecond : s.sanitize html = .ok ⟨html, ⟨[]⟩⟩ := eq_ok_of_toOption (by decide +kernel)
  have hcoordinate : ∀ r ∈ some coordinate, r.Made := by
    rintro r ⟨⟩
    exact hmade
  exact ⟨hmade, _, _, hfirst, hsecond, rfl,
    report_eq_nil_of_sanitize_again hcoordinate hfirst hsecond⟩

/-- **Where a second pass changes nothing.** It writes its input again exactly where the reader finds
in the output the tags and the text between them that the first pass kept. -/
theorem html_eq_iff_of_sanitize_again {coordinate : Option Coordinate}
    (hmade : ∀ r ∈ coordinate, r.Made) {html : String} {r r' : Rendered}
    (h : Sanitizer.sanitize ⟨.packagist, coordinate⟩ html = .ok r)
    (h' : Sanitizer.sanitize ⟨.packagist, coordinate⟩ r.html = .ok r') :
    ∃ nodes again, read? html = some nodes ∧ read? r.html = some again ∧
      (r'.html = r.html ↔
        pieces again = pieces (Sanitizer.walkForest ⟨.packagist, coordinate⟩ nodes).kept) := by
  obtain ⟨nodes, again, hread, rfl, hagain, rfl, hkept, hsettled⟩ :=
    sanitize_again (s := ⟨.packagist, coordinate⟩) Policy.rereadable_packagist hmade
      Policy.forcedAttributes_packagist_nodup h h'
  exact ⟨nodes, again, hread, hagain, write_eq_iff Policy.rereadable_packagist hkept hsettled⟩

/-- A paragraph in a button in a paragraph. Without the button, the inner paragraph stands right in
the outer one. -/
theorem sanitize_nested_paragraph :
    Sanitizer.sanitize ⟨.packagist, none⟩ "<p><button><p>x" =
      .ok ⟨"<p><p>x</p></p>", ⟨[.element "button" .disallowedElement]⟩⟩ :=
  eq_ok_of_toOption (by decide +kernel)

/-- A reader closes the outer paragraph where the inner one starts, and its end tag is one too many. -/
theorem sanitize_nested_paragraph_again :
    Sanitizer.sanitize ⟨.packagist, none⟩ "<p><p>x</p></p>" =
      .ok ⟨"<p></p><p>x</p><p></p>", ⟨[]⟩⟩ :=
  eq_ok_of_toOption (by decide +kernel)

/-- A second pass can change the output of the first: an element that makes way leaves its children
where a reader does not. -/
theorem sanitize_not_idempotent :
    ¬∀ (html : String) (r r' : Rendered), Sanitizer.sanitize ⟨.packagist, none⟩ html = .ok r →
      Sanitizer.sanitize ⟨.packagist, none⟩ r.html = .ok r' → r'.html = r.html := by
  intro h
  exact absurd (h _ _ _ sanitize_nested_paragraph sanitize_nested_paragraph_again) (by decide)

/-- There the reader does not find the tags that were kept. -/
theorem html_eq_iff_of_sanitize_again_nested :
    ∃ nodes again, read? "<p><button><p>x" = some nodes ∧ read? "<p><p>x</p></p>" = some again ∧
      pieces again ≠ pieces (Sanitizer.walkForest ⟨.packagist, none⟩ nodes).kept := by
  obtain ⟨nodes, again, hread, hagain, hiff⟩ := html_eq_iff_of_sanitize_again (by simp)
    sanitize_nested_paragraph sanitize_nested_paragraph_again
  exact ⟨nodes, again, hread, hagain, fun h => absurd (hiff.2 h) (by decide)⟩

end Sanitizer

end SafeReadme
