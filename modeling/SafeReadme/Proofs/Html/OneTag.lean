import SafeReadme.Html.Tree.Construct
import SafeReadme.Proofs.Html.Tokens
import SafeReadme.Proofs.Html.Tree.Insert

/-!
# Documents of one start tag

At the start of a document nothing is open that a start tag would close, open again or move out of a
table. So a start tag and nothing else is read as its element, whichever of the many rules for start
tags takes it.
-/

namespace SafeReadme.Html

/-- The rules give an element to a start tag of this name, under the same name. -/
structure StartsElement (tag : String) : Prop where
  taken : BodyStart.ofTag tag ≠ .ignored
  kept : tag ≠ "image"

namespace Vocabulary

/-- The vocabulary of the element that a start tag opens where no other is open. -/
def ofTag (tag : String) : Vocabulary :=
  match BodyStart.ofTag tag with
  | .math => .math
  | .svg => .svg
  | _ => .html

def root : Vocabulary → String
  | .html => "html"
  | .svg => "svg"
  | .math => "math"

end Vocabulary

theorem spellAttributes_html (attributes : List Attribute) :
    spellAttributes .html attributes = attributes :=
  List.map_id _

namespace Builder

theorem startInBody_start (tag : Tag) (h : StartsElement tag.name) :
    let vocabulary := Vocabulary.ofTag tag.name
    (start.startInBody tag).arena =
        (start.insertClosed ⟨vocabulary, tag.name⟩
          (spellAttributes vocabulary tag.attributes)).arena ∧
      (start.startInBody tag).mode ≠ .tableText := by
  have himage : (tag.name == "image") = false := by simp [h.kept]
  have htaken := h.taken
  simp only [startInBody, himage, Bool.false_eq_true, if_false, Vocabulary.ofTag]
  generalize BodyStart.ofTag tag.name = group at htaken ⊢
  -- What a group does before it opens the element comes to nothing here, by computation.
  cases group with
  | ignored => exact absurd rfl htaken
  | math =>
      dsimp only [insertForeign]
      split <;> exact ⟨rfl, nofun⟩
  | svg =>
      dsimp only [insertForeign]
      split <;> exact ⟨rfl, nofun⟩
  | form =>
      dsimp only
      rw [if_neg (by decide), spellAttributes_html]
      split <;> exact ⟨rfl, nofun⟩
  | _ =>
      dsimp only
      rw [spellAttributes_html]
      exact ⟨rfl, nofun⟩

theorem nodes?_insertClosed_start (name : ElementName) (attributes : List Attribute) :
    (start.insertClosed name attributes).nodes? = some [.element name.tag attributes []] := by
  cases htemplate : name.is "template" <;>
    · rw [insertClosed, Arena.createElement, htemplate]
      rfl

end Builder

/-- A tag does not start with a byte order mark, and none of its line breaks has to be unified. -/
theorem normalizeNewlines_dropMark_opening {tag : String} {attributes : List Attribute}
    (hplain : (Piece.opening tag attributes).Plain)
    (hvalues : ∀ a ∈ attributes, '\r' ∉ a.value.toList) :
    normalizeNewlines (Builder.dropMark (Piece.opening tag attributes).chars) =
      (Piece.opening tag attributes).chars := by
  have hunify : ∀ p ∈ [Piece.opening tag attributes], p.unify = p :=
    List.forall_mem_singleton.2 (Piece.unify_opening hvalues)
  have hunbroken : ∀ p ∈ [Piece.opening tag attributes], p.Unbroken :=
    List.forall_mem_singleton.2 hplain.unbroken
  have hbreaks := normalizeNewlines_flatMap_pieces hunbroken
  rw [unifyPieces_eq_self hunify, List.flatMap_singleton] at hbreaks
  exact hbreaks

/-- **A document of one start tag is read as one element.** -/
theorem read?_opening {tag : String} {attributes : List Attribute}
    (hplain : (Piece.opening tag attributes).Plain)
    (hvalues : ∀ a ∈ attributes, '\r' ∉ a.value.toList ∧ '\x00' ∉ a.value.toList)
    (hstarts : StartsElement tag) :
    read? (String.ofList (Piece.opening tag attributes).chars) =
      some [.element tag (spellAttributes (.ofTag tag) attributes) []] := by
  let given : Tag := ⟨tag, attributes, isVoid tag⟩
  obtain ⟨harena, hmode⟩ := Builder.startInBody_start given hstarts
  have htoken : openingToken tag attributes = .startTag given :=
    openingToken_eq fun a ha => (hvalues a ha).2
  have hnext : Builder.start.next (.startTag given) = Builder.start.startInBody given :=
    Builder.take_of_body rfl rfl _
  have hread := next?_opening hplain Builder.start.allowsSections []
  rw [List.append_nil, htoken] at hread
  have hchars := normalizeNewlines_dropMark_opening hplain fun a ha => (hvalues a ha).1
  rw [read?, String.toList_ofList, Builder.construct, hchars, Builder.run_of_next? rfl hread, hnext,
    Builder.run_nil _ hmode, Builder.nodes?, harena]
  exact Builder.nodes?_insertClosed_start _ _

/-- What a vocabulary makes of the attribute of a document that is one start tag. -/
theorem read?_root {vocabulary : Vocabulary} (h : vocabulary ≠ .html) {name : String}
    (hname : isPlainName name = true) :
    read? (String.ofList (Piece.opening vocabulary.root [⟨name, ""⟩]).chars) =
      some [.element vocabulary.root [⟨attributeSpelling vocabulary name, ""⟩] []] := by
  have hroot : isPlainName vocabulary.root = true ∧ StartsElement vocabulary.root ∧
      Vocabulary.ofTag vocabulary.root = vocabulary := by
    cases vocabulary with
    | html => exact absurd rfl h
    | svg => exact ⟨by decide, ⟨by decide, by decide⟩, by decide⟩
    | math => exact ⟨by decide, ⟨by decide, by decide⟩, by decide⟩
  obtain ⟨hplain, hstarts, hvocabulary⟩ := hroot
  rw [read?_opening ⟨hplain, List.forall_mem_singleton.2 hname, by simp [names]⟩ (by simp) hstarts,
    hvocabulary]
  rfl

end SafeReadme.Html
