import SafeReadme.Proofs.Sanitize.Walk

/-!
# Every part of a document is accounted for

A walk meets a document in document order and leaves out the content of what is dropped whole. Each
element that it meets is kept or reported, each text is kept, and each attribute of an element that
is filtered is kept or reported, all of them once and in the order of the document.
-/

namespace SafeReadme

/-! ## Splitting a list in two -/

/-- Each member of a list has its counterpart, by `R` in one list or by `S` in another, and both lists
have no other members and keep the order. -/
inductive Splits {α β γ : Type} (R : α → β → Prop) (S : α → γ → Prop) :
    List α → List β → List γ → Prop where
  | nil : Splits R S [] [] []
  | left {a : α} {b : β} {as : List α} {bs : List β} {cs : List γ} :
      R a b → Splits R S as bs cs → Splits R S (a :: as) (b :: bs) cs
  | right {a : α} {c : γ} {as : List α} {bs : List β} {cs : List γ} :
      S a c → Splits R S as bs cs → Splits R S (a :: as) bs (c :: cs)

namespace Splits

variable {α β γ : Type} {R : α → β → Prop} {S : α → γ → Prop}

theorem append {as as' : List α} {bs bs' : List β} {cs cs' : List γ} (h : Splits R S as bs cs)
    (h' : Splits R S as' bs' cs') : Splits R S (as ++ as') (bs ++ bs') (cs ++ cs') := by
  induction h with
  | nil => exact h'
  | left hR _ ih => exact .left hR ih
  | right hS _ ih => exact .right hS ih

theorem right_of_mem {as : List α} {bs : List β} {cs : List γ} (h : Splits R S as bs cs) :
    ∀ c ∈ cs, ∃ a, S a c := by
  induction h with
  | nil => simp
  | left _ _ ih => exact ih
  | right hS _ ih =>
      intro c hc
      rcases List.mem_cons.1 hc with rfl | hc
      · exact ⟨_, hS⟩
      · exact ih c hc

/-- A part that left counterparts share and that members with a right counterpart lack. -/
theorem filterMap_eq {δ : Type} {f : α → Option δ} {g : β → Option δ}
    {as : List α} {bs : List β} {cs : List γ} (h : Splits R S as bs cs)
    (hleft : ∀ a b, R a b → f a = g b) (hright : ∀ a c, S a c → f a = none) :
    as.filterMap f = bs.filterMap g := by
  induction h with
  | nil => rfl
  | left hR _ ih => rw [List.filterMap_cons, List.filterMap_cons, hleft _ _ hR, ih]
  | right hS _ ih => rw [List.filterMap_cons_none (hright _ _ hS), ih]

end Splits

namespace Sanitizer

open Html

/-! ## Attributes -/

def KeepsAttribute (s : Sanitizer) (tag : String) (a b : Attribute) : Prop :=
  b.name = a.name ∧ s.Passes tag a b.value

def DropsAttribute (tag : String) (a : Attribute) (d : Drop) : Prop :=
  ∃ reason, d = .attr tag a.name reason

theorem splits_walkSource (s : Sanitizer) (tag : String) (seen : List String)
    (source : List Attribute) :
    Splits (s.KeepsAttribute tag) (DropsAttribute tag) source
      (s.walkSource tag seen source).kept (s.walkSource tag seen source).drops := by
  induction source generalizing seen with
  | nil => exact .nil
  | cons a rest ih =>
      rw [walkSource]
      rcases s.walkAttribute_cases tag seen a with ⟨reason, hdrop⟩ | ⟨value, hkeep, -, hpasses⟩
      · rw [hdrop]
        exact .right ⟨reason, rfl⟩ (ih (a.name :: seen))
      · rw [hkeep]
        exact .left ⟨rfl, hpasses⟩ (ih (a.name :: seen))

theorem isElement_of_mem_drops_walkAttributes {s : Sanitizer} {tag : String}
    {source : List Attribute} : ∀ d ∈ (s.walkAttributes tag source).drops, d.isElement = false := by
  rw [drops_walkAttributes]
  intro d hd
  obtain ⟨a, reason, rfl⟩ := (s.splits_walkSource tag [] source).right_of_mem d hd
  rfl

/-! ## Elements -/

def dropReason? (s : Sanitizer) (e : Element) : Option DropReason :=
  if s.policy.removesWithContent e.tag then some .removedWithContent
  else if !s.policy.allowsElement e.tag then some .disallowedElement
  else if Rule.requiresSource e.tag &&
      !(s.walkAttributes e.tag e.attributes).kept.any (fun a => a.name == "src") then
    some .missingSource
  else none

def dropsContent (s : Sanitizer) (e : Element) : Bool :=
  s.dropReason? e == some .removedWithContent || s.dropReason? e == some .missingSource

def filters (s : Sanitizer) (e : Element) : Bool :=
  s.policy.allowsElement e.tag && !s.policy.removesWithContent e.tag

def attributeDrops (s : Sanitizer) (e : Element) : List Drop :=
  if s.filters e then (s.walkAttributes e.tag e.attributes).drops else []

/-- A text is kept as it is, and an element that nothing speaks against with its attributes
filtered. -/
def KeepsVisit (s : Sanitizer) : Visit → Visit → Prop
  | .text content, kept => kept = .text content
  | .element e, kept =>
      s.dropReason? e = none ∧
        kept = .element ⟨e.tag, (s.walkAttributes e.tag e.attributes).kept⟩

def DropsVisit (s : Sanitizer) : Visit → Drop → Prop
  | .text _, _ => False
  | .element e, d => ∃ reason, s.dropReason? e = some reason ∧ d = .element e.tag reason

/-- What has been visited is accounted for. -/
structure Accounts (s : Sanitizer) (visited : List Visit) (walked : Walked Node) : Prop where
  visits : Splits s.KeepsVisit s.DropsVisit visited (allVisits walked.kept)
    (Report.elements ⟨walked.drops⟩)
  attributes : Report.attributes ⟨walked.drops⟩ =
    (visited.filterMap Visit.element?).flatMap s.attributeDrops

theorem isElement_of_mem_attributeDrops {s : Sanitizer} {e : Element} :
    ∀ d ∈ s.attributeDrops e, d.isElement = false := by
  unfold attributeDrops
  split
  · exact isElement_of_mem_drops_walkAttributes
  · simp

theorem filter_isElement_attributeDrops (s : Sanitizer) (e : Element) :
    (s.attributeDrops e).filter Drop.isElement = [] := by
  rw [List.filter_eq_nil_iff]
  intro d hd
  simp [isElement_of_mem_attributeDrops d hd]

theorem filter_not_isElement_attributeDrops (s : Sanitizer) (e : Element) :
    (s.attributeDrops e).filter (fun d => !d.isElement) = s.attributeDrops e := by
  rw [List.filter_eq_self]
  intro d hd
  simp [isElement_of_mem_attributeDrops d hd]

theorem flatMap_attributeDrops (s : Sanitizer) (es : List Element) :
    es.flatMap s.attributeDrops =
      (es.filter s.filters).flatMap (fun e => (s.walkAttributes e.tag e.attributes).drops) := by
  induction es with
  | nil => rfl
  | cons e rest ih =>
      rw [List.flatMap_cons, ih, attributeDrops]
      by_cases h : s.filters e = true <;> simp [h]

namespace Accounts

variable {s : Sanitizer} {visited visited' : List Visit} {walked walked' : Walked Node}

theorem nothing (s : Sanitizer) : s.Accounts [] .nothing :=
  ⟨.nil, rfl⟩

theorem append (h : s.Accounts visited walked) (h' : s.Accounts visited' walked') :
    s.Accounts (visited ++ visited') (walked ++ walked') where
  visits := by
    have hsplits := h.visits.append h'.visits
    simpa [allVisits, Report.elements] using hsplits
  attributes := by
    have hleft := h.attributes
    have hright := h'.attributes
    simp only [Report.attributes] at hleft hright ⊢
    rw [Walked.drops_append, List.filter_append, hleft, hright, List.filterMap_append,
      List.flatMap_append]

theorem text (s : Sanitizer) (content : String) :
    s.Accounts [.text content] (.keep (.text content)) where
  visits := by
    simp only [allVisits, Walked.kept_keep, visits_cons, visits_text, visits_nil]
    exact .left rfl .nil
  attributes := rfl

theorem dropped {e : Element} {reason : DropReason} (h : s.dropReason? e = some reason) :
    s.Accounts [.element e] ⟨[], s.attributeDrops e ++ [.element e.tag reason]⟩ where
  visits := by
    have hreport : Report.elements ⟨s.attributeDrops e ++ [.element e.tag reason]⟩ =
        [.element e.tag reason] := by
      rw [Report.elements, List.filter_append, filter_isElement_attributeDrops]
      rfl
    rw [hreport]
    exact .right ⟨reason, h, rfl⟩ .nil
  attributes := by
    rw [Report.attributes, List.filter_append, filter_not_isElement_attributeDrops]
    simp [Drop.isElement, Visit.element?]

theorem kept {e : Element} {inner : Walked Node} (h : s.dropReason? e = none)
    (hinner : s.Accounts visited inner) :
    s.Accounts (.element e :: visited)
      ⟨[.element e.tag (s.walkAttributes e.tag e.attributes).kept inner.kept],
        s.attributeDrops e ++ inner.drops⟩ where
  visits := by
    have hreport : Report.elements ⟨s.attributeDrops e ++ inner.drops⟩ =
        Report.elements ⟨inner.drops⟩ := by
      rw [Report.elements, List.filter_append, filter_isElement_attributeDrops]
      rfl
    simp only [hreport, allVisits, visits_cons, visits_element, visits_nil, List.append_nil]
    exact .left ⟨h, rfl⟩ hinner.visits
  attributes := by
    have hattributes := hinner.attributes
    rw [Report.attributes] at hattributes
    rw [Report.attributes, List.filter_append, filter_not_isElement_attributeDrops, hattributes]
    rfl

end Accounts

mutual

theorem accounts_walkNode (s : Sanitizer) :
    ∀ node, s.Accounts (node.visits s.dropsContent) (s.walkNode node)
  | .text content => by
      rw [walkNode, visits_text]
      exact .text s content
  | .element tag attributes children => by
      rw [walkNode]
      split
      next hremoved =>
        have hreason : s.dropReason? ⟨tag, attributes⟩ = some .removedWithContent := by
          simp [dropReason?, hremoved]
        have hnone : s.attributeDrops ⟨tag, attributes⟩ = [] := by
          simp [attributeDrops, filters, hremoved]
        have hdropped := Accounts.dropped hreason
        rw [hnone] at hdropped
        rw [visits_element, if_pos (by simp [dropsContent, hreason])]
        exact hdropped
      next hremoved =>
        split
        next hallowed =>
          -- The element makes way, so its children are visited in its place.
          have hreason : s.dropReason? ⟨tag, attributes⟩ = some .disallowedElement := by
            rw [dropReason?, if_neg hremoved, if_pos hallowed]
          have hnone : s.attributeDrops ⟨tag, attributes⟩ = [] := by
            simp only [Bool.not_eq_true'] at hallowed
            simp [attributeDrops, filters, hallowed]
          have hdropped := Accounts.dropped hreason
          rw [hnone] at hdropped
          rw [visits_element, if_neg (by simp [dropsContent, hreason])]
          exact hdropped.append (accounts_walkForest s children)
        next hallowed =>
          have hdrops : s.attributeDrops ⟨tag, attributes⟩ =
              (s.walkAttributes tag attributes).drops := by
            simp only [Bool.not_eq_true', Bool.not_eq_false] at hallowed
            simp [attributeDrops, filters, hremoved, hallowed]
          simp only
          rw [← hdrops]
          split
          next hsource =>
            have hreason : s.dropReason? ⟨tag, attributes⟩ = some .missingSource := by
              rw [dropReason?, if_neg hremoved, if_neg hallowed, if_pos hsource]
            rw [visits_element, if_pos (by simp [dropsContent, hreason])]
            exact .dropped hreason
          next hsource =>
            have hreason : s.dropReason? ⟨tag, attributes⟩ = none := by
              rw [dropReason?, if_neg hremoved, if_neg hallowed, if_neg hsource]
            rw [visits_element, if_neg (by simp [dropsContent, hreason])]
            exact .kept hreason (accounts_walkForest s children)

theorem accounts_walkForest (s : Sanitizer) :
    ∀ nodes, s.Accounts (visits s.dropsContent nodes) (s.walkForest nodes)
  | [] => by
      rw [walkForest, visits_nil]
      exact .nothing s
  | node :: rest => by
      rw [walkForest, visits_cons]
      exact (accounts_walkNode s node).append (accounts_walkForest s rest)

end

theorem texts_walkForest (s : Sanitizer) (nodes : List Node) :
    texts (s.walkForest nodes).kept = (visits s.dropsContent nodes).filterMap Visit.text? := by
  refine ((s.accounts_walkForest nodes).visits.filterMap_eq ?_ ?_).symm
  · intro visit kept hkept
    cases visit with
    | text content => rw [show kept = .text content from hkept]
    | element e =>
        rw [show kept = .element _ from hkept.2]
        rfl
  · intro visit d hd
    cases visit with
    | text content => exact hd.elim
    | element e => rfl

/-- **A walk accounts for all that it meets.** Of what a traversal in document order visits that
passes over the content of what is dropped whole, every element is either kept, with its attributes
filtered, or reported, and every text is kept; both the output and the report are in the order of the
visit and hold nothing else. The attributes that are reported are those of the visited elements that
are filtered, in the same order; on each element every attribute of the source is either kept or
reported, and after those that are kept come the forced ones that the source lacks. -/
theorem walkForest_accounts (s : Sanitizer) (nodes : List Node) :
    let visited := visits s.dropsContent nodes
    let output := (s.walkForest nodes).kept
    let report : Report := ⟨(s.walkForest nodes).drops⟩
    Splits s.KeepsVisit s.DropsVisit visited (allVisits output) report.elements ∧
      texts output = visited.filterMap Visit.text? ∧
      report.attributes =
        ((visited.filterMap Visit.element?).filter s.filters).flatMap
          (fun e => (s.walkAttributes e.tag e.attributes).drops) ∧
      ∀ e : Element, ∃ survivors,
        (s.walkAttributes e.tag e.attributes).kept =
            survivors ++ s.missingForced e.tag e.attributes ∧
          Splits (s.KeepsAttribute e.tag) (DropsAttribute e.tag) e.attributes survivors
            (s.walkAttributes e.tag e.attributes).drops := by
  intro visited output report
  have haccounts := accounts_walkForest s nodes
  refine ⟨haccounts.visits, s.texts_walkForest nodes, ?_,
    fun e => ⟨_, s.kept_walkAttributes e.tag e.attributes, ?_⟩⟩
  · rw [haccounts.attributes, flatMap_attributeDrops]
  · rw [drops_walkAttributes]
    exact s.splits_walkSource e.tag [] e.attributes

end Sanitizer

end SafeReadme
