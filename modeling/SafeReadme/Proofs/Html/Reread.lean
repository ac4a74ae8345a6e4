import SafeReadme.Proofs.Html.Tokens
import SafeReadme.Proofs.Html.Tree.Within

/-!
# Reading what was written

When a written forest is read again, the tags that the reader meets are those of its elements. So
whatever the construction moves, copies or adds, the elements of the new tree have every property
that the rules preserve and that the old elements have.
-/

namespace SafeReadme.Html

/-- A value as it is read again: line breaks are unified and NUL is replaced. -/
def rereadValue (value : String) : String :=
  String.ofList ((normalizeNewlines value.toList).map visible)

def Attribute.reread (a : Attribute) : Attribute :=
  ⟨a.name, rereadValue a.value⟩

def Element.rereadTag (e : Element) : Tag :=
  ⟨e.tag, e.attributes.map Attribute.reread, isVoid e.tag⟩

theorem names_map_reread (attributes : List Attribute) :
    names (attributes.map Attribute.reread) = names attributes := by
  rw [names, List.map_map]
  rfl

theorem names_map_unify (attributes : List Attribute) :
    names (attributes.map Attribute.unify) = names attributes := by
  rw [names, List.map_map]
  rfl

theorem shown_unify (a : Attribute) : a.unify.shown = a.reread := by
  simp [Attribute.unify, Attribute.shown, Attribute.reread, rereadValue]

theorem openingToken_unify (e : Element) :
    openingToken e.tag (e.attributes.map Attribute.unify) = .startTag e.rereadTag := by
  have hshown : Attribute.shown ∘ Attribute.unify = Attribute.reread := funext shown_unify
  rw [openingToken, Element.rereadTag, List.map_map, hshown]

theorem Piece.Plain.unify {p : Piece} (h : p.Plain) : p.unify.Plain := by
  cases p with
  | char c => trivial
  | opening tag attributes =>
      refine ⟨h.1, ?_, ?_⟩
      · intro a ha
        obtain ⟨a', ha', rfl⟩ := List.mem_map.1 ha
        exact h.2.1 a' ha'
      · rw [names_map_unify]
        exact h.2.2
  | ending tag => exact h

theorem plain_of_mem_readPieces {nodes : List Node} (h : ∀ e ∈ elements nodes, e.Plain) :
    ∀ p ∈ readPieces nodes, p.Plain := by
  intro p hp
  rcases mem_readPieces hp with ⟨c, rfl⟩ | ⟨e, he, rfl | rfl⟩
  · trivial
  · exact Piece.Plain.unify (p := .opening e.tag e.attributes) (h e he)
  · exact (h e he).1

def WrittenFrom (ps : List Piece) (cs : List Char) : Prop :=
  ∃ rest : List Piece, cs = rest.flatMap Piece.chars ∧ ∀ p ∈ rest, p ∈ ps

variable {P : ElementName → List Attribute → Prop} {A : Tag → Prop}

theorem admits_of_isOf {nodes : List Node} (htags : ∀ e ∈ elements nodes, A e.rereadTag)
    {token : Token} (h : token.IsOf (readPieces nodes)) : token.Admits A := by
  cases h with
  | text content => trivial
  | null => trivial
  | opening h =>
      rcases mem_readPieces h with ⟨c, heq⟩ | ⟨e, he, heq | heq⟩
      · cases heq
      · cases heq
        rw [openingToken_unify]
        exact htags e he
      · cases heq
  | ending h => trivial

theorem feeds_readPieces {nodes : List Node} (hplain : ∀ e ∈ elements nodes, e.Plain)
    (htags : ∀ e ∈ elements nodes, A e.rereadTag) :
    Builder.Feeds (Builder.Within P (· = .data)) A (WrittenFrom (readPieces nodes)) := by
  have hnext : ∀ {b : Builder} {cs lexed}, b.textMode = .data →
      WrittenFrom (readPieces nodes) cs → next? b.textMode b.allowsSections cs = some lexed →
      lexed.token.IsOf (readPieces nodes) ∧ WrittenFrom (readPieces nodes) lexed.rest := by
    rintro b cs lexed hdata ⟨ps, rfl, hps⟩ hlexed
    rw [hdata] at hlexed
    obtain ⟨htoken, rest, hrest, hmem⟩ :=
      next?_flatMap_chars (fun p hp => plain_of_mem_readPieces hplain p (hps p hp)) hlexed
    exact ⟨htoken.mono hps, rest, hrest, fun p hp => hps p (hmem p hp)⟩
  exact {
    token := fun h hcs hlexed => admits_of_isOf htags (hnext h.textMode hcs hlexed).1
    rest := fun h hcs hlexed => (hnext h.textMode hcs hlexed).2
    mark := by
      rintro cs ⟨ps, rfl, hps⟩
      exact ⟨_, dropMark_flatMap_pieces ps, fun p hp => hps p (mem_dropMarkPiece hp)⟩ }

/-- **What a written forest is read as**: the elements of the new tree have every property that the
rules preserve, if the tags of the old elements have it as they are read again. -/
theorem within_reread (hc : Closed P (· = .data) A) {nodes again : List Node}
    (hplain : ∀ e ∈ elements nodes, e.Plain) (htags : ∀ e ∈ elements nodes, A e.rereadTag)
    (hread : read? (write nodes) = some again) :
    ∀ e ∈ elements again, ∃ vocabulary, P ⟨vocabulary, e.tag⟩ e.attributes := by
  have hunbroken : ∀ p ∈ pieces nodes, p.Unbroken :=
    fun p hp => (plain_of_mem_pieces hplain p hp).unbroken
  rw [read?, construct_write hunbroken, Builder.nodes?] at hread
  have hrun := (Builder.keeps_within hc).run hc.toAdmissible (feeds_readPieces hplain htags)
    ((write nodes).toList.length + 1) (Builder.within_start hc.data)
    ⟨readPieces nodes, rfl, fun p hp => hp⟩
  exact within_nodes? hrun.arena hread

end SafeReadme.Html
