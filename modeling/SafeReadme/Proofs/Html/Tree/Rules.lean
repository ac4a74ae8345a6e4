import SafeReadme.Proofs.Html.Tree.Formatting

/-!
# The rules in edits

The rules for a token close elements, add the element of its tag, or add one of the few elements that
a document may leave out. Whatever the state of the construction is, each rule comes down to edits.
-/

namespace SafeReadme.Html

def BodyStart.opens : BodyStart → Bool
  | .ignored | .metadata | .void | .loneVoid | .divider => false
  | _ => true

/-- The start tags of void elements open none in a body. -/
theorem isVoid_of_opens {tag : String} (h : (BodyStart.ofTag tag).opens = true) :
    isVoid tag = false := by
  have hvoid : ∀ tag ∈ voidElements, (BodyStart.ofTag tag).opens = false := by decide +kernel
  refine Bool.eq_false_iff.2 fun hisVoid => ?_
  rw [hvoid tag (List.contains_iff_mem.1 hisVoid)] at h
  cases h

theorem isVoid_of_beq {tag other : String} (h : (tag == other) = true)
    (hother : isVoid other = false) : isVoid tag = false := by
  rw [beq_iff_eq.1 h]
  exact hother

theorem isVoid_of_contains {tags : List String} {tag : String} (h : tags.contains tag = true)
    (htags : ∀ tag ∈ tags, isVoid tag = false) : isVoid tag = false :=
  htags tag (List.contains_iff_mem.1 h)

/-- The state behind a rule is reached by edits, and the token that it hands on is admitted. -/
def Outcome.Edits (A : Tag → Prop) (b₀ : Builder) : Outcome → Prop
  | .done b => Builder.Edits A b₀ b
  | .again b token => Builder.Edits A b₀ b ∧ token.Admits A

namespace Builder

variable {A : Tag → Prop} {b₀ b b' : Builder}

/-! ## The body -/

namespace Edits

theorem openTemplate (h : Edits A b₀ b) {tag : Tag} (ht : A tag) (hvoid : isVoid tag.name = false) :
    Edits A b₀ (b.openTemplate tag) :=
  (h.insert (.tag ht hvoid)).pushMarker.turn rfl

theorem closeTemplate (h : Edits A b₀ b) : Edits A b₀ b.closeTemplate := by
  unfold Builder.closeTemplate
  split
  · exact h
  · refine Edits.resetMode ?_
    exact ((h.implyEnds _).close "template").clearFormatting.turn rfl

theorem closeItem (h : Edits A b₀ b) (tags : List String) : Edits A b₀ (b.closeItem tags) := by
  unfold Builder.closeItem
  simp only
  split
  · exact h
  · exact h.orKeep _ ((h.implyEndsExcept _).close _)

/-- A start tag in a body: every group adds the element of the tag or none. -/
theorem startInBody (hA : Admissible A) (h : Edits A b₀ b) {tag : Tag} (ht : A tag) :
    Edits A b₀ (b.startInBody tag) := by
  have ht' : A (if tag.name == "image" then { tag with name := "img" } else tag) := by
    split
    next himage => exact hA.image ht (beq_iff_eq.1 himage)
    · exact ht
  unfold Builder.startInBody
  simp only
  -- From here on the tag is the one that is inserted, whatever its name was.
  generalize (if tag.name == "image" then { tag with name := "img" } else tag) = tag at ht' ⊢
  have hvoid := @isVoid_of_opens tag.name
  have htext : ∀ (b : Builder) textMode, Edits A b₀ b →
      (BodyStart.ofTag tag.name).opens = true →
      (BodyStart.ofTag tag.name).textMode? tag.name = some textMode →
      Edits A b₀ (b.insertText tag textMode) :=
    fun _ _ h hopens hmode => h.insertText ht' (isVoid_of_opens hopens) hmode
  have hforeign : ∀ vocabulary, (BodyStart.ofTag tag.name).vocabulary? = some vocabulary →
      Edits A b₀ (b.insertForeign vocabulary tag) :=
    fun vocabulary hvocabulary => h.insertForeign (.embedded ht' hvocabulary)
  generalize hkind : BodyStart.ofTag tag.name = kind at hvoid htext hforeign ⊢
  have hnew : kind.opens = true → ∀ b, Opens A b ⟨.html, tag.name⟩ tag.attributes :=
    fun hopens _ => .tag ht' (hvoid hopens)
  cases kind with
  | ignored => exact h
  | metadata => exact h.insertVoid ht'
  | title => exact htext _ _ h rfl rfl
  | rawText => exact htext _ _ h rfl rfl
  | script => exact htext _ _ h rfl rfl
  | template => exact h.openTemplate ht' (hvoid rfl)
  | block => exact h.closeParagraph.insert (hnew rfl _)
  | heading => exact (h.closeParagraph.popIf _).insert (hnew rfl _)
  | preformatted => exact (h.closeParagraph.insert (hnew rfl _)).dropNewline
  | form =>
      have hinserted := h.closeParagraph.insert (hnew rfl _)
      simp only
      split
      · exact h
      · split
        · exact hinserted
        · exact hinserted.turn rfl
  | listItem => exact (h.closeItem ["li"]).closeParagraph.insert (hnew rfl _)
  | definition => exact (h.closeItem ["dd", "dt"]).closeParagraph.insert (hnew rfl _)
  | plainText =>
      exact (h.closeParagraph.insert (hnew rfl _)).readAs ht' (by rw [hkind]; rfl)
  | button =>
      exact (h.orKeep _ (h.implyAllEnds.close "button")).reconstruct.insert (hnew rfl _)
  | link => exact h.closeLink.reconstruct.insertFormatting ht' (hvoid rfl)
  | formatting => exact h.reconstruct.insertFormatting ht' (hvoid rfl)
  | noBreak =>
      have hclosed := (h.reconstruct.closeFormatting "nobr").reconstruct
      exact (h.reconstruct.orKeep _ hclosed).insertFormatting ht' (hvoid rfl)
  | object => exact (h.reconstruct.insert (hnew rfl _)).pushMarker
  | table => exact (h.closeParagraph.insert (hnew rfl _)).enter .table
  | void => exact h.reconstruct.insertVoid ht'
  | loneVoid => exact h.insertVoid ht'
  | divider => exact h.closeParagraph.insertVoid ht'
  | textArea => exact (htext _ _ h rfl rfl).dropNewline
  | «example» => exact htext _ _ h.closeParagraph.reconstruct rfl rfl
  | select => exact (h.reconstruct.insert (hnew rfl _)).enter _
  | option => exact (h.popIf _).reconstruct.insert (hnew rfl _)
  | rubyBase => exact (h.orKeep _ h.implyAllEnds).insert (hnew rfl _)
  | rubyText => exact (h.orKeep _ (h.implyEndsExcept "rtc")).insert (hnew rfl _)
  | math => exact hforeign _ rfl
  | svg => exact hforeign _ rfl
  | other => exact h.reconstruct.insert (hnew rfl _)

theorem endForm (h : Edits A b₀ b) : Edits A b₀ b.endForm := by
  unfold Builder.endForm
  split
  · exact h.orKeep _ (h.implyAllEnds.close "form")
  · split
    · exact h
    next id _ =>
      have hcleared : Edits A b₀ { b with form := none } := h.turn rfl
      exact hcleared.orKeep _ (hcleared.implyAllEnds.unstack id)

end Edits

theorem ite_ne_of_ne {α : Type} {condition : Bool} {x y z : α} (hx : x ≠ z) (hy : y ≠ z) :
    (if condition then x else y) ≠ z := by
  cases condition
  · exact hy
  · exact hx

theorem eq_of_ofTag_paragraph {tag : String} (h : BodyEnd.ofTag tag = .paragraph) : tag = "p" := by
  unfold BodyEnd.ofTag at h
  by_cases htag : (tag == "p") = true
  · exact beq_iff_eq.1 htag
  · -- The other branches all name another group.
    rw [if_neg htag] at h
    refine absurd h ?_
    repeat' apply ite_ne_of_ne
    all_goals exact BodyEnd.noConfusion

namespace Edits

/-- An end tag in a body: only that of a paragraph or of a line break adds an element. -/
theorem endInBody (hA : Admissible A) (h : Edits A b₀ b) (tag : String) :
    Edits A b₀ (b.endInBody tag) := by
  unfold Builder.endInBody
  cases hkind : BodyEnd.ofTag tag with
  | ignored => exact h
  | template => exact h.closeTemplate
  | block => exact h.orKeep _ (h.implyAllEnds.close tag)
  | form => exact h.endForm
  | paragraph =>
      obtain rfl := eq_of_ofTag_paragraph hkind
      simp only
      split
      · exact (h.implyEndsExcept "p").close "p"
      · exact ((h.insertImplied (.implied (by simp))).implyEndsExcept "p").close "p"
  | listItem => exact h.orKeep _ ((h.implyEndsExcept tag).close tag)
  | definition => exact h.orKeep _ ((h.implyEndsExcept tag).close tag)
  | heading => exact h.orKeep _ (h.implyAllEnds.popThrough _)
  | formatting => exact h.closeFormatting tag
  | object => exact h.orKeep _ (h.implyAllEnds.close tag).clearFormatting
  | lineBreak => exact h.startInBody hA hA.lineBreak
  | other => exact h.closeOther tag

theorem textInBody (h : Edits A b₀ b) (content : String) : Edits A b₀ (b.textInBody content) :=
  h.reconstruct.addText content

theorem inBody (hA : Admissible A) (h : Edits A b₀ b) {token : Token} (ht : token.Admits A) :
    Edits A b₀ (b.inBody token) := by
  cases token with
  | startTag tag => exact h.startInBody hA ht
  | endTag tag => exact h.endInBody hA tag
  | text content keepsNewline => exact h.textInBody content
  | comment => exact h.addComment
  | null => exact h
  | cdata content => exact h
  | ignored => exact h

/-! ## Tables -/

theorem foster (hA : Admissible A) (h : Edits A b₀ b) {token : Token} (ht : token.Admits A) :
    Edits A b₀ (b.foster token) := by
  have hfostering : Edits A b₀ { b with fostering := true } := h.turn rfl
  exact (hfostering.inBody hA ht).turn rfl

theorem placePendingText (hA : Admissible A) (h : Edits A b₀ b) :
    Edits A b₀ b.placePendingText := by
  have htaken : Edits A b₀ { b with pendingText := "", mode := b.heldMode } := h.turn rfl
  unfold Builder.placePendingText
  simp only
  split
  · exact htaken
  · split
    · exact htaken.addText _
    · exact htaken.foster hA trivial

end Edits

theorem edits_ite {condition : Bool} {x y : Outcome}
    (hx : condition = true → x.Edits A b₀) (hy : y.Edits A b₀) :
    (if condition then x else y).Edits A b₀ := by
  cases condition
  · exact hy
  · exact hx rfl

theorem edits_againOrKeep (h : Edits A b₀ b) (condition : Bool) {token : Token}
    (hleft : Edits A b₀ b') (ht : token.Admits A) :
    (if condition then Outcome.again b' token else .done b).Edits A b₀ :=
  edits_ite (fun _ => ⟨hleft, ht⟩) h

theorem edits_doneOrKeep (h : Edits A b₀ b) (condition : Bool) (hleft : Edits A b₀ b') :
    (if condition then Outcome.done b' else .done b).Edits A b₀ :=
  edits_ite (fun _ => hleft) h

theorem edits_textInTable (hA : Admissible A) (h : Edits A b₀ b) {token : Token}
    (ht : token.Admits A) : (b.textInTable token).Edits A b₀ :=
  edits_ite (fun _ => ⟨h.turn rfl, ht⟩) (h.foster hA ht)

theorem edits_inTableText (hA : Admissible A) (h : Edits A b₀ b) {token : Token}
    (ht : token.Admits A) : (b.inTableText token).Edits A b₀ := by
  unfold inTableText
  split
  · exact h.turn rfl
  · exact h
  · exact ⟨h.placePendingText hA, ht⟩

theorem isVoid_of_rowGroups {tag : String} (h : rowGroups.contains tag = true) :
    isVoid tag = false :=
  isVoid_of_contains h (by decide)

theorem isVoid_of_cells {tag : String} (h : cells.contains tag = true) : isVoid tag = false :=
  isVoid_of_contains h (by decide)

theorem edits_startInTable (hA : Admissible A) (h : Edits A b₀ b) {tag : Tag} (ht : A tag) :
    (b.startInTable tag).Edits A b₀ := by
  have hcleared : Edits A b₀ b.clearToTable := h.popTo _
  have hclosed : Edits A b₀ b.closeTable := (h.close "table").resetMode
  unfold startInTable
  simp only
  refine edits_ite (fun hname => ?caption) ?_
  case caption =>
    exact (hcleared.pushMarker.insert (.tag ht (isVoid_of_beq hname (by decide)))).enter .caption
  refine edits_ite (fun hname => ?columnGroup) ?_
  case columnGroup =>
    exact (hcleared.insert (.tag ht (isVoid_of_beq hname (by decide)))).enter .columnGroup
  refine edits_ite (fun hname => ⟨?column, ht⟩) ?_
  case column =>
    exact (hcleared.insertImplied (.columns ht (beq_iff_eq.1 hname))).enter .columnGroup
  refine edits_ite (fun hname => ?rowGroup) ?_
  case rowGroup =>
    exact (hcleared.insert (.tag ht (isVoid_of_rowGroups hname))).enter .tableBody
  refine edits_ite (fun _ => ⟨?row, ht⟩) ?_
  case row => exact (hcleared.insertImplied (.implied (by simp))).enter .tableBody
  refine edits_ite (fun _ => edits_againOrKeep h _ hclosed ht) ?_
  refine edits_ite (fun _ => h.startInBody hA ht) ?_
  refine edits_ite (fun _ => h.insertVoid ht) ?_
  refine edits_ite (fun _ => edits_ite (fun _ => h) ((h.insertVoid ht).turn rfl)) ?_
  exact h.foster hA ht

theorem edits_endInTable (hA : Admissible A) (h : Edits A b₀ b) (name : String) :
    (b.endInTable name).Edits A b₀ := by
  unfold endInTable
  refine edits_ite (fun _ => edits_doneOrKeep h _ (h.close "table").resetMode) ?_
  refine edits_ite (fun _ => h) ?_
  exact edits_ite (fun _ => h.closeTemplate) (h.foster hA trivial)

theorem edits_inTable (hA : Admissible A) (h : Edits A b₀ b) {token : Token}
    (ht : token.Admits A) : (b.inTable token).Edits A b₀ := by
  unfold inTable
  split
  · exact edits_textInTable hA h ht
  · exact edits_textInTable hA h ht
  · exact edits_startInTable hA h ht
  · exact edits_endInTable hA h _
  · exact h.addComment
  · exact h

theorem edits_inCaption (hA : Admissible A) (h : Edits A b₀ b) {token : Token}
    (ht : token.Admits A) : (b.inCaption token).Edits A b₀ := by
  have hclosed : Edits A b₀ ((b.implyAllEnds.close "caption").clearFormatting.enter .table) :=
    (h.implyAllEnds.close "caption").clearFormatting.enter .table
  have hleave := edits_againOrKeep h (b.inTableScope "caption") hclosed ht
  unfold inCaption
  cases token with
  | startTag tag => exact edits_ite (fun _ => hleave) (h.inBody hA ht)
  | endTag name =>
      refine edits_ite (fun _ => edits_doneOrKeep h _ hclosed) ?_
      refine edits_ite (fun _ => hleave) ?_
      exact edits_ite (fun _ => h) (h.inBody hA ht)
  | _ => exact h.inBody hA ht

theorem edits_leaveColumns (h : Edits A b₀ b) {token : Token} (ht : token.Admits A) :
    (b.leaveColumns token).Edits A b₀ :=
  edits_againOrKeep h _ (h.pop.enter .table) ht

theorem edits_textInColumnGroup (h : Edits A b₀ b) (content : String) :
    (b.textInColumnGroup content).Edits A b₀ := by
  have hadmits : ∀ content, (Token.text content false).Admits A := fun _ => trivial
  have hspace : ∀ space : List Char,
      Edits A b₀ (if space.isEmpty then b else b.addText (String.ofList space)) := by
    intro space
    split
    · exact h
    · exact h.addText _
  exact edits_ite (fun _ => hspace _) (edits_leaveColumns (hspace _) (hadmits _))

theorem edits_inColumnGroup (h : Edits A b₀ b) {token : Token} (ht : token.Admits A) :
    (b.inColumnGroup token).Edits A b₀ := by
  unfold inColumnGroup
  split
  · exact edits_textInColumnGroup h _
  · exact h.addComment
  · refine edits_ite (fun _ => h) (edits_ite (fun _ => h.insertVoid ht) ?_)
    refine edits_ite (fun hname => h.openTemplate ht ?_) (edits_leaveColumns h ht)
    exact isVoid_of_beq hname (by decide)
  · refine edits_ite (fun _ => edits_doneOrKeep h _ (h.pop.enter .table)) ?_
    refine edits_ite (fun _ => h) ?_
    exact edits_ite (fun _ => h.closeTemplate) (edits_leaveColumns h ht)
  · exact edits_leaveColumns h ht
  · exact h

theorem edits_inTableBody (hA : Admissible A) (h : Edits A b₀ b) {token : Token}
    (ht : token.Admits A) : (b.inTableBody token).Edits A b₀ := by
  have hcleared : Edits A b₀ b.clearToRowGroup := h.popTo _
  have hclosed : Edits A b₀ b.closeRowGroup := hcleared.pop.enter .table
  have hleave := fun condition => edits_againOrKeep h condition hclosed ht
  unfold inTableBody
  cases token with
  | startTag tag =>
      refine edits_ite (fun hname => ?row) ?_
      case row => exact (hcleared.insert (.tag ht (isVoid_of_beq hname (by decide)))).enter .row
      refine edits_ite (fun _ => ⟨?cell, ht⟩) ?_
      case cell => exact (hcleared.insertImplied (.implied (by simp))).enter .row
      exact edits_ite (fun _ => hleave _) (edits_inTable hA h ht)
  | endTag name =>
      refine edits_ite (fun _ => edits_doneOrKeep h _ hclosed) ?_
      refine edits_ite (fun _ => hleave _) ?_
      exact edits_ite (fun _ => h) (edits_inTable hA h ht)
  | _ => exact edits_inTable hA h ht

theorem edits_inRow (hA : Admissible A) (h : Edits A b₀ b) {token : Token}
    (ht : token.Admits A) : (b.inRow token).Edits A b₀ := by
  have hcleared : Edits A b₀ b.clearToRow := h.popTo _
  have hclosed : Edits A b₀ b.closeRow := hcleared.pop.enter .tableBody
  have hleave := edits_againOrKeep h (b.inTableScope "tr") hclosed ht
  unfold inRow
  cases token with
  | startTag tag =>
      refine edits_ite (fun hname => ?cell) ?_
      case cell =>
        exact ((hcleared.insert (.tag ht (isVoid_of_cells hname))).enter .cell).pushMarker
      exact edits_ite (fun _ => hleave) (edits_inTable hA h ht)
  | endTag name =>
      refine edits_ite (fun _ => edits_doneOrKeep h _ hclosed) ?_
      refine edits_ite (fun _ => hleave) ?_
      refine edits_ite (fun _ => edits_ite (fun _ => hleave) h) ?_
      exact edits_ite (fun _ => h) (edits_inTable hA h ht)
  | _ => exact edits_inTable hA h ht

theorem edits_inCell (hA : Admissible A) (h : Edits A b₀ b) {token : Token}
    (ht : token.Admits A) : (b.inCell token).Edits A b₀ := by
  have hclosed : Edits A b₀ b.closeCell :=
    (h.implyAllEnds.popThrough _).clearFormatting.enter .row
  unfold inCell
  cases token with
  | startTag tag =>
      exact edits_ite (fun _ => edits_againOrKeep h _ hclosed ht) (h.inBody hA ht)
  | endTag name =>
      have hcell := (h.implyAllEnds.close name).clearFormatting.enter .row
      refine edits_ite (fun _ => edits_doneOrKeep h _ hcell) (edits_ite (fun _ => h) ?_)
      exact edits_ite (fun _ => edits_againOrKeep h _ hclosed ht) (h.inBody hA ht)
  | _ => exact h.inBody hA ht

/-! ## Selections and templates -/

theorem Edits.closeSelect (h : Edits A b₀ b) : Edits A b₀ b.closeSelect :=
  (h.close "select").resetMode

theorem Edits.closeOption (h : Edits A b₀ b) : Edits A b₀ b.closeOption :=
  h.popIf _

theorem edits_startInSelect (hA : Admissible A) (h : Edits A b₀ b) {tag : Tag} (ht : A tag) :
    (b.startInSelect tag).Edits A b₀ := by
  unfold startInSelect
  simp only
  refine edits_ite (fun hname => ?option) (edits_ite (fun hname => ?group) ?_)
  case option => exact h.closeOption.insert (.tag ht (isVoid_of_beq hname (by decide)))
  case group =>
    exact (h.closeOption.popIf _).insert (.tag ht (isVoid_of_beq hname (by decide)))
  refine edits_ite (fun _ => h.orKeep _ h.closeSelect) ?_
  refine edits_ite (fun _ => edits_againOrKeep h _ h.closeSelect ht) ?_
  exact edits_ite (fun _ => h.startInBody hA ht) h

theorem Edits.endInSelect (h : Edits A b₀ b) (name : String) :
    Edits A b₀ (b.endInSelect name) := by
  unfold Builder.endInSelect
  simp only
  split
  · exact (h.popIf _).popIf _
  · split
    · exact h.closeOption
    · split
      · exact h.orKeep _ h.closeSelect
      · exact h.orKeep _ h.closeTemplate

theorem edits_inSelect (hA : Admissible A) (h : Edits A b₀ b) {token : Token}
    (ht : token.Admits A) : (b.inSelect token).Edits A b₀ := by
  unfold inSelect
  split
  · exact h.addText _
  · exact h.addComment
  · exact edits_startInSelect hA h ht
  · exact h.endInSelect _
  · exact h

theorem edits_inSelectInTable (hA : Admissible A) (h : Edits A b₀ b) {token : Token}
    (ht : token.Admits A) : (b.inSelectInTable token).Edits A b₀ := by
  have hselect := edits_inSelect hA h ht
  unfold inSelectInTable
  split
  · exact edits_ite (fun _ => ⟨h.closeSelect, ht⟩) hselect
  · exact edits_ite (fun _ => edits_againOrKeep h _ h.closeSelect ht) hselect
  · exact hselect

theorem edits_inTemplateContent (hA : Admissible A) (h : Edits A b₀ b) {token : Token}
    (ht : token.Admits A) : (b.inTemplateContent token).Edits A b₀ := by
  unfold inTemplateContent
  split
  · exact edits_ite (fun _ => h.inBody hA ht) ⟨h.turn rfl, ht⟩
  · exact h.orKeep _ h.closeTemplate
  · exact h.inBody hA ht

end Builder

end SafeReadme.Html
