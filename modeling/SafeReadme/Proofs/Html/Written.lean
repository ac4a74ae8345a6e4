import SafeReadme.Html.Tree.Construct
import SafeReadme.Proofs.Html.Elements

/-!
# Written documents in pieces

The written form of a forest is a sequence of characters of text and of tags. Every tag in it is that
of an element of the forest.
-/

namespace SafeReadme.Html

/-- A piece of a written document. -/
inductive Piece where
  | char (c : Char)
  | opening (tag : String) (attributes : List Attribute)
  | ending (tag : String)
  deriving DecidableEq, Repr

def Attribute.chars (a : Attribute) : List Char :=
  ' ' :: (a.name.toList ++ '=' :: '"' :: (a.value.toList.flatMap valueChar ++ ['"']))

def bracketOf (tag : String) : List Char :=
  if isVoid tag then [' ', '/', '>'] else ['>']

def Piece.chars : Piece → List Char
  | .char c => textChar c
  | .opening tag attributes =>
      '<' :: (tag.toList ++ (attributes.flatMap Attribute.chars ++ bracketOf tag))
  | .ending tag => '<' :: '/' :: (tag.toList ++ ['>'])

/-- The newline that is written in front of content whose first newline would be dropped. -/
def guardPieces (tag : String) (children : List Node) : List Piece :=
  if dropsNewline tag && startsWithNewline children then [.char '\n'] else []

mutual

def Node.pieces : Node → List Piece
  | .text content => content.toList.map .char
  | .element tag attributes children =>
      if isVoid tag then [.opening tag attributes]
      else .opening tag attributes :: (guardPieces tag children ++ (pieces children ++ [.ending tag]))

def pieces : List Node → List Piece
  | [] => []
  | node :: rest => node.pieces ++ pieces rest

end

/-! ## The written form -/

theorem toList_attributeWriteTo (out : String) (a : Attribute) :
    (a.writeTo out).toList = out.toList ++ a.chars := by
  simp [Attribute.writeTo, Attribute.chars, escapeValue]

theorem toList_writeOpening (out tag : String) (attributes : List Attribute) :
    (writeOpening out tag attributes).toList =
      out.toList ++ '<' :: (tag.toList ++ attributes.flatMap Attribute.chars) := by
  have hfold : ∀ start : String, (attributes.foldl Attribute.writeTo start).toList =
      start.toList ++ attributes.flatMap Attribute.chars := by
    induction attributes with
    | nil => simp
    | cons a rest ih =>
        intro start
        rw [List.foldl_cons, ih, toList_attributeWriteTo, List.flatMap_cons, List.append_assoc]
  rw [writeOpening, hfold]
  simp

mutual

theorem toList_writeTo (out : String) :
    ∀ node, (Node.writeTo out node).toList = out.toList ++ node.pieces.flatMap Piece.chars
  | .text content => by
      rw [Node.writeTo, Node.pieces, String.toList_append, escapeText, String.toList_ofList,
        List.flatMap_map]
      rfl
  | .element tag attributes children => by
      rw [Node.writeTo, Node.pieces]
      simp only
      split
      next hvoid =>
        simp [toList_writeOpening, Piece.chars, bracketOf, hvoid]
      next hvoid =>
        rw [String.toList_append, String.toList_append, String.toList_append,
          toList_writeAllTo _ children]
        split
        next hguard =>
          simp [toList_writeOpening, Piece.chars, bracketOf, hvoid, guardPieces, hguard, textChar]
        next hguard =>
          simp [toList_writeOpening, Piece.chars, bracketOf, hvoid, guardPieces, hguard]

theorem toList_writeAllTo (out : String) :
    ∀ nodes, (writeAllTo out nodes).toList = out.toList ++ (pieces nodes).flatMap Piece.chars
  | [] => by
      rw [writeAllTo, pieces]
      simp
  | node :: rest => by
      rw [writeAllTo, pieces, toList_writeAllTo _ rest, toList_writeTo out node,
        List.flatMap_append, List.append_assoc]

end

theorem toList_write (nodes : List Node) :
    (write nodes).toList = (pieces nodes).flatMap Piece.chars := by
  rw [write, toList_writeAllTo]
  rfl

/-! ## The tags of a forest -/

mutual

theorem mem_pieces_node {p : Piece} :
    ∀ node, p ∈ Node.pieces node →
      (∃ c, p = .char c) ∨
        ∃ e ∈ node.elements, p = .opening e.tag e.attributes ∨ p = .ending e.tag
  | .text content, h => by
      rw [Node.pieces] at h
      obtain ⟨c, -, rfl⟩ := List.mem_map.1 h
      exact .inl ⟨c, rfl⟩
  | .element tag attributes children, h => by
      have hself : ⟨tag, attributes⟩ ∈ (Node.element tag attributes children).elements := by simp
      have hin : ∀ e ∈ elements children, e ∈ (Node.element tag attributes children).elements :=
        fun e he => by simp [he]
      rw [Node.pieces] at h
      split at h
      · rw [List.mem_singleton] at h
        exact .inr ⟨_, hself, .inl h⟩
      · simp only [List.mem_cons, List.mem_append, List.not_mem_nil, or_false] at h
        rcases h with h | h | h | h
        · exact .inr ⟨_, hself, .inl h⟩
        · unfold guardPieces at h
          split at h
          · exact .inl ⟨_, List.mem_singleton.1 h⟩
          · cases h
        · exact (mem_pieces children h).imp_right fun ⟨e, he, hp⟩ => ⟨e, hin e he, hp⟩
        · exact .inr ⟨_, hself, .inr h⟩

/-- Every tag of a written forest is that of one of its elements. -/
theorem mem_pieces {p : Piece} :
    ∀ nodes, p ∈ pieces nodes →
      (∃ c, p = .char c) ∨
        ∃ e ∈ elements nodes, p = .opening e.tag e.attributes ∨ p = .ending e.tag
  | [], h => by
      rw [pieces] at h
      cases h
  | node :: rest, h => by
      rw [pieces, List.mem_append] at h
      rw [elements_cons]
      rcases h with h | h
      · exact (mem_pieces_node node h).imp_right fun ⟨e, he, hp⟩ =>
          ⟨e, List.mem_append_left _ he, hp⟩
      · exact (mem_pieces rest h).imp_right fun ⟨e, he, hp⟩ =>
          ⟨e, List.mem_append_right _ he, hp⟩

end

end SafeReadme.Html
