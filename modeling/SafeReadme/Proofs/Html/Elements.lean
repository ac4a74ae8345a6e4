import SafeReadme.Html.Node

/-!
# The elements of a forest

A forest seen as the list of its elements in document order. Facts about every element at any depth
are facts about the members of this list. A traversal meets the texts too, and may pass over the
content of some elements.
-/

namespace SafeReadme.Html

/-- An element without its place and its content. -/
structure Element where
  tag : String
  attributes : List Attribute
  deriving DecidableEq, Repr

mutual

def Node.elements : Node → List Element
  | .text _ => []
  | .element tag attributes children => ⟨tag, attributes⟩ :: elements children

def elements : List Node → List Element
  | [] => []
  | node :: rest => node.elements ++ elements rest

end

@[simp] theorem elements_nil : elements [] = [] := by
  rw [elements]

@[simp] theorem elements_cons (node : Node) (rest : List Node) :
    elements (node :: rest) = node.elements ++ elements rest := by
  rw [elements]

@[simp] theorem elements_text (content : String) : (Node.text content).elements = [] := by
  rw [Node.elements]

@[simp] theorem elements_element (tag : String) (attributes : List Attribute)
    (children : List Node) :
    (Node.element tag attributes children).elements =
      ⟨tag, attributes⟩ :: elements children := by
  rw [Node.elements]

@[simp] theorem elements_append (a b : List Node) :
    elements (a ++ b) = elements a ++ elements b := by
  induction a with
  | nil => simp
  | cons node rest ih => simp [ih]

/-! ## Comparing forests -/

mutual

def Node.decEq : (a b : Node) → Decidable (a = b)
  | .text content, .text content' => decidable_of_iff (content = content') (by simp)
  | .element tag attributes children, .element tag' attributes' children' =>
      match decEqForest children children' with
      | .isTrue h => decidable_of_iff (tag = tag' ∧ attributes = attributes') (by simp [h])
      | .isFalse h => .isFalse (by simp [h])
  | .text _, .element _ _ _ => .isFalse (by simp)
  | .element _ _ _, .text _ => .isFalse (by simp)

def decEqForest : (a b : List Node) → Decidable (a = b)
  | [], [] => .isTrue rfl
  | node :: rest, node' :: rest' =>
      match node.decEq node', decEqForest rest rest' with
      | .isTrue h, .isTrue h' => .isTrue (by rw [h, h'])
      | .isFalse h, _ => .isFalse (by simp [h])
      | _, .isFalse h => .isFalse (by simp [h])
  | [], _ :: _ => .isFalse (by simp)
  | _ :: _, [] => .isFalse (by simp)

end

instance : DecidableEq Node :=
  Node.decEq

/-! ## Texts and elements in document order -/

/-- A stop of a traversal: a text, or an element before its content. -/
inductive Visit where
  | text (content : String)
  | element (e : Element)
  deriving DecidableEq, Repr

namespace Visit

def text? : Visit → Option String
  | text content => some content
  | element _ => none

def element? : Visit → Option Element
  | text _ => none
  | element e => some e

end Visit

mutual

/-- The stops in a node. The content of the elements that `skips` names is passed over. -/
def Node.visits (skips : Element → Bool) : Node → List Visit
  | .text content => [.text content]
  | .element tag attributes children =>
      .element ⟨tag, attributes⟩ :: if skips ⟨tag, attributes⟩ then [] else visits skips children

def visits (skips : Element → Bool) : List Node → List Visit
  | [] => []
  | node :: rest => node.visits skips ++ visits skips rest

end

@[simp] theorem visits_nil (skips : Element → Bool) : visits skips [] = [] := by
  rw [visits]

@[simp] theorem visits_cons (skips : Element → Bool) (node : Node) (rest : List Node) :
    visits skips (node :: rest) = node.visits skips ++ visits skips rest := by
  rw [visits]

@[simp] theorem visits_text (skips : Element → Bool) (content : String) :
    (Node.text content).visits skips = [.text content] := by
  rw [Node.visits]

@[simp] theorem visits_element (skips : Element → Bool) (tag : String)
    (attributes : List Attribute) (children : List Node) :
    (Node.element tag attributes children).visits skips =
      .element ⟨tag, attributes⟩ ::
        if skips ⟨tag, attributes⟩ then [] else visits skips children := by
  rw [Node.visits]

@[simp] theorem visits_append (skips : Element → Bool) (a b : List Node) :
    visits skips (a ++ b) = visits skips a ++ visits skips b := by
  induction a with
  | nil => simp
  | cons node rest ih => simp [ih]

def allVisits (nodes : List Node) : List Visit :=
  visits (fun _ => false) nodes

def texts (nodes : List Node) : List String :=
  (allVisits nodes).filterMap Visit.text?

@[simp] theorem texts_nil : texts [] = [] := rfl

@[simp] theorem texts_cons_text (content : String) (rest : List Node) :
    texts (.text content :: rest) = content :: texts rest := by
  simp [texts, allVisits, Visit.text?]

@[simp] theorem texts_cons_element (tag : String) (attributes : List Attribute)
    (children rest : List Node) :
    texts (.element tag attributes children :: rest) = texts children ++ texts rest := by
  simp [texts, allVisits, List.filterMap_cons, Visit.text?]

mutual

theorem sublist_visits_node (skips : Element → Bool) :
    ∀ node, (Node.visits skips node).Sublist (Node.visits (fun _ => false) node)
  | .text content => by simp
  | .element tag attributes children => by
      rw [visits_element, visits_element]
      apply List.Sublist.cons_cons
      show (if skips ⟨tag, attributes⟩ then [] else visits skips children).Sublist
        (allVisits children)
      split
      · exact List.nil_sublist _
      · exact sublist_visits skips children

theorem sublist_visits (skips : Element → Bool) :
    ∀ nodes, (visits skips nodes).Sublist (allVisits nodes)
  | [] => by simp [allVisits]
  | node :: rest => by
      rw [allVisits, visits_cons, visits_cons]
      exact (sublist_visits_node skips node).append (sublist_visits skips rest)

end

mutual

theorem filterMap_element?_visits_node : ∀ node : Node,
    (node.visits fun _ => false).filterMap Visit.element? = node.elements
  | .text content => by simp [Visit.element?]
  | .element tag attributes children => by
      have hchildren := filterMap_element?_allVisits children
      rw [allVisits] at hchildren
      simp [Visit.element?, hchildren]

theorem filterMap_element?_allVisits : ∀ nodes,
    (allVisits nodes).filterMap Visit.element? = elements nodes
  | [] => by simp [allVisits]
  | node :: rest => by
      have hrest := filterMap_element?_allVisits rest
      rw [allVisits] at hrest ⊢
      rw [visits_cons, List.filterMap_append, filterMap_element?_visits_node node, hrest,
        elements_cons]

end

theorem element_mem_allVisits {nodes : List Node} {e : Element} :
    .element e ∈ allVisits nodes ↔ e ∈ elements nodes := by
  rw [← filterMap_element?_allVisits, List.mem_filterMap]
  constructor
  · exact fun h => ⟨_, h, rfl⟩
  · rintro ⟨visit, hvisit, helement⟩
    cases visit with
    | text content => cases helement
    | element e' =>
        cases helement
        exact hvisit

/-! ## Elements with what they hold -/

/-- An element with the nodes in it. -/
structure Holding where
  element : Element
  nodes : List Node

mutual

def Node.holdings : Node → List Holding
  | .text _ => []
  | .element tag attributes children => ⟨⟨tag, attributes⟩, children⟩ :: holdings children

def holdings : List Node → List Holding
  | [] => []
  | node :: rest => node.holdings ++ holdings rest

end

@[simp] theorem holdings_nil : holdings [] = [] := by
  rw [holdings]

@[simp] theorem holdings_cons (node : Node) (rest : List Node) :
    holdings (node :: rest) = node.holdings ++ holdings rest := by
  rw [holdings]

@[simp] theorem holdings_text (content : String) : (Node.text content).holdings = [] := by
  rw [Node.holdings]

@[simp] theorem holdings_element (tag : String) (attributes : List Attribute)
    (children : List Node) :
    (Node.element tag attributes children).holdings =
      ⟨⟨tag, attributes⟩, children⟩ :: holdings children := by
  rw [Node.holdings]

@[simp] theorem holdings_append (a b : List Node) :
    holdings (a ++ b) = holdings a ++ holdings b := by
  induction a with
  | nil => simp
  | cons node rest ih => simp [ih]

theorem mem_holdings_flatten {forests : List (List Node)} {h : Holding}
    (hmem : h ∈ holdings forests.flatten) : ∃ forest ∈ forests, h ∈ holdings forest := by
  induction forests with
  | nil => simp at hmem
  | cons forest rest ih =>
      rw [List.flatten_cons, holdings_append, List.mem_append] at hmem
      rcases hmem with hmem | hmem
      · exact ⟨forest, by simp, hmem⟩
      · obtain ⟨forest', hforest', hmem⟩ := ih hmem
        exact ⟨forest', List.mem_cons_of_mem _ hforest', hmem⟩

mutual

theorem map_element_holdings_node :
    ∀ node : Node, node.holdings.map Holding.element = node.elements
  | .text content => by simp
  | .element tag attributes children => by simp [map_element_holdings children]

theorem map_element_holdings : ∀ nodes, (holdings nodes).map Holding.element = elements nodes
  | [] => by simp
  | node :: rest => by
      simp [map_element_holdings_node node, map_element_holdings rest]

end

theorem mem_elements_iff {nodes : List Node} {e : Element} :
    e ∈ elements nodes ↔ ∃ h ∈ holdings nodes, h.element = e := by
  rw [← map_element_holdings, List.mem_map]

/-! ## Attributes by name -/

theorem map_eq_self {α : Type} {f : α → α} {as : List α} (h : ∀ a ∈ as, f a = a) :
    as.map f = as :=
  (List.map_congr_left h).trans (List.map_id _)

def names (attributes : List Attribute) : List String :=
  attributes.map Attribute.name

theorem mem_names {attributes : List Attribute} {name : String} :
    name ∈ names attributes ↔ ∃ a ∈ attributes, a.name = name := by
  simp [names]

/-- Where names are distinct, an attribute is the only one of its name. -/
theorem filter_name_eq_singleton {attributes : List Attribute} {a : Attribute}
    (hnodup : (names attributes).Nodup) (ha : a ∈ attributes) :
    attributes.filter (fun b => b.name == a.name) = [a] := by
  induction attributes with
  | nil => simp at ha
  | cons head rest ih =>
      obtain ⟨hhead, hrest⟩ := List.nodup_cons.1 hnodup
      rcases List.mem_cons.1 ha with rfl | ha
      · have hnone : rest.filter (fun b => b.name == a.name) = [] := by
          rw [List.filter_eq_nil_iff]
          intro b hb hname
          exact hhead (mem_names.2 ⟨b, hb, beq_iff_eq.1 hname⟩)
        rw [List.filter_cons_of_pos (by simp), hnone]
      · have hne : head.name ≠ a.name := fun h => hhead (mem_names.2 ⟨a, ha, h.symm⟩)
        rw [List.filter_cons_of_neg (by simpa using hne), ih hrest ha]

end SafeReadme.Html
