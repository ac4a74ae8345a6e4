import SafeReadme.Proofs.Html.Written

/-!
# What a written document shows

The written form of a forest shows its texts and its elements one behind the other, but nothing of
what is in an element with a void name. So it shows all of the forest exactly where such elements are
empty.
-/

namespace SafeReadme.Html

/-- What is written where a stop is shown: the text, or the start tag of the element. -/
def Visit.chars : Visit → List Char
  | .text content => content.toList.flatMap textChar
  | .element e => (Piece.opening e.tag e.attributes).chars

/-- A document shows stops in this order, each of them behind the one before it. -/
inductive Shows : List Char → List Visit → Prop where
  | nil (cs : List Char) : Shows cs []
  | cons (before : List Char) {v : Visit} {cs : List Char} {vs : List Visit} :
      Shows cs vs → Shows (before ++ (v.chars ++ cs)) (v :: vs)

namespace Shows

variable {cs cs' : List Char} {vs vs' : List Visit}

theorem skip (before : List Char) (h : Shows cs vs) : Shows (before ++ cs) vs := by
  cases h with
  | nil => exact .nil _
  | cons before' h =>
      rw [← List.append_assoc]
      exact .cons _ h

theorem append (h : Shows cs vs) (h' : Shows cs' vs') : Shows (cs ++ cs') (vs ++ vs') := by
  induction h with
  | nil cs => exact h'.skip cs
  | cons before _ ih =>
      rw [List.append_assoc, List.append_assoc]
      exact .cons before ih

theorem single (v : Visit) : Shows v.chars [v] := by
  simpa using Shows.cons [] (v := v) (.nil [])

theorem infix_of_mem (h : Shows cs vs) : ∀ v ∈ vs, v.chars <:+: cs := by
  induction h with
  | nil => simp
  | cons before h ih =>
      rename_i v cs vs
      intro v' hv
      rcases List.mem_cons.1 hv with rfl | hv
      · exact ⟨before, cs, by simp⟩
      · exact (ih v' hv).trans ⟨before ++ v.chars, [], by simp⟩

end Shows

/-- Whether an element is written without what is in it. -/
def Element.hides (e : Element) : Bool :=
  isVoid e.tag

mutual

theorem shows_node : ∀ node : Node,
    Shows (node.pieces.flatMap Piece.chars) (node.visits Element.hides)
  | .text content => by
      rw [Node.pieces, visits_text, List.flatMap_map]
      exact Shows.single (.text content)
  | .element tag attributes children => by
      have hopening : Shows (Piece.opening tag attributes).chars [.element ⟨tag, attributes⟩] :=
        Shows.single (.element ⟨tag, attributes⟩)
      rw [Node.pieces, visits_element]
      by_cases hvoid : isVoid tag = true
      · simpa [Element.hides, hvoid] using hopening
      · have hchildren := ((shows_pieces children).skip
          ((guardPieces tag children).flatMap Piece.chars)).append
            (.nil (Piece.ending tag).chars)
        simpa [Element.hides, hvoid] using hopening.append hchildren

/-- The pieces of a forest show its stops, but not those in void elements. -/
theorem shows_pieces : ∀ nodes : List Node,
    Shows ((pieces nodes).flatMap Piece.chars) (visits Element.hides nodes)
  | [] => .nil _
  | node :: rest => by
      rw [pieces, visits_cons, List.flatMap_append]
      exact (shows_node node).append (shows_pieces rest)

end

/-- **What a written document shows**: the texts and elements of its forest in document order, except
those in void elements. -/
theorem shows_write (nodes : List Node) :
    Shows (write nodes).toList (visits Element.hides nodes) := by
  rw [toList_write]
  exact shows_pieces nodes

mutual

theorem visits_node_of_empty {skips : Element → Bool} : ∀ {node : Node},
    (∀ h ∈ node.holdings, skips h.element = true → h.nodes = []) →
      node.visits skips = node.visits fun _ => false
  | .text content, _ => by simp
  | .element tag attributes children, hempty => by
      obtain ⟨hself, hchildren⟩ := List.forall_mem_cons.1 (holdings_element .. ▸ hempty)
      rw [visits_element, visits_element, visits_of_empty hchildren]
      split
      next hskips =>
        obtain rfl : children = [] := hself hskips
        simp
      · simp [allVisits]

theorem visits_of_empty {skips : Element → Bool} : ∀ {nodes : List Node},
    (∀ h ∈ holdings nodes, skips h.element = true → h.nodes = []) →
      visits skips nodes = allVisits nodes
  | [], _ => by simp [allVisits]
  | node :: rest, hempty => by
      rw [holdings_cons] at hempty
      have hnode := visits_node_of_empty fun h hmem => hempty h (List.mem_append_left _ hmem)
      have hrest := visits_of_empty fun h hmem => hempty h (List.mem_append_right _ hmem)
      rw [allVisits, visits_cons, visits_cons, hnode, hrest, allVisits]

end

end SafeReadme.Html
