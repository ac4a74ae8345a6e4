import SafeReadme.Proofs.Html.Tree.Run

/-!
# What every element of a tree is

The construction of a tree moves nodes about and copies formatting elements, but it takes the name
and the attributes of an element from a tag once and for all. `Within P M` says that `P` holds of
every element in the arena and of every tag that an element can still be copied from, and `M` of the
way in which the next characters are read. If `P` and `M` hold of all that the rules add, every edit
keeps them.
-/

namespace SafeReadme.Html

variable {P : ElementName → List Attribute → Prop} {M : TextMode → Prop}

/-! ## Arenas -/

namespace Arena

theorem entry_modify (a : Arena) (id : NodeId) (f : Entry → Entry) (other : NodeId) :
    (a.modify id f).entry other =
      if id = other ∧ other < a.size then f (a.entry other) else a.entry other := by
  rw [entry, entry, modify, Array.getElem?_modify, size]
  by_cases hother : other < a.entries.size
  · rw [Array.getElem?_eq_getElem hother]
    by_cases hid : id = other <;> simp [hid, hother]
  · rw [Array.getElem?_eq_none (Nat.le_of_not_lt hother)]
    simp [hother]

theorem entry_push (a : Arena) (e : Entry) (id : NodeId) :
    entry ⟨a.entries.push e⟩ id = if id = a.size then e else a.entry id := by
  rw [entry, entry, Array.getElem?_push, size]
  split
  · rfl
  · rfl

theorem content_modify (a : Arena) (id : NodeId) {f : Entry → Entry}
    (hf : ∀ e, (f e).content = e.content) (other : NodeId) :
    (a.modify id f).content other = a.content other := by
  rw [content, content, entry_modify]
  split
  · exact hf _
  · rfl

def Within (P : ElementName → List Attribute → Prop) (a : Arena) : Prop :=
  ∀ id name attributes, a.content id = .element name attributes → P name attributes

theorem Within.modify {a : Arena} (h : a.Within P) (id : NodeId) {f : Entry → Entry}
    (hf : ∀ e, (f e).content = e.content) : (a.modify id f).Within P := by
  intro other name attributes hcontent
  rw [content_modify a id hf] at hcontent
  exact h other name attributes hcontent

theorem Within.push {a : Arena} (h : a.Within P) {e : Entry}
    (hnew : ∀ name attributes, e.content = .element name attributes → P name attributes) :
    Within P ⟨a.entries.push e⟩ := by
  intro id name attributes hcontent
  rw [content, entry_push] at hcontent
  split at hcontent
  · exact hnew name attributes hcontent
  · exact h id name attributes hcontent

theorem Within.create {a : Arena} (h : a.Within P) {content : Content}
    (hnew : ∀ name attributes, content = .element name attributes → P name attributes) :
    (a.create content).Within P :=
  h.push hnew

theorem Within.createElement {a : Arena} (h : a.Within P) {name : ElementName}
    {attributes : List Attribute} (hnew : P name attributes) :
    (a.createElement name attributes).Within P := by
  have helement : ∀ name' attributes',
      Content.element name attributes = .element name' attributes' → P name' attributes' := by
    rintro name' attributes' ⟨⟩
    exact hnew
  unfold Arena.createElement
  split
  · -- A template gets a second entry, for its content, which is no element.
    exact (h.push helement).push fun _ _ heq => by cases heq
  · exact h.push helement

theorem Within.detach {a : Arena} (h : a.Within P) (id : NodeId) : (a.detach id).Within P := by
  unfold Arena.detach
  split
  · exact h
  · refine Within.modify (Within.modify h _ ?_) _ ?_ <;> exact fun e => rfl

theorem Within.append {a : Arena} (h : a.Within P) (parent id : NodeId) :
    (a.append parent id).Within P := by
  unfold Arena.append
  refine Within.modify (Within.modify h _ ?_) _ ?_ <;> exact fun e => rfl

theorem Within.insertBefore {a : Arena} (h : a.Within P) (parent sibling id : NodeId) :
    (a.insertBefore parent sibling id).Within P := by
  unfold Arena.insertBefore
  refine Within.modify (Within.modify h _ ?_) _ ?_ <;> exact fun e => rfl

theorem Within.extend {a : Arena} (h : a.Within P) (id : NodeId) (more : String) :
    (a.extend id more).Within P := by
  intro other name attributes hcontent
  rw [content, Arena.extend, entry_modify] at hcontent
  split at hcontent
  · split at hcontent
    · cases hcontent
    · exact h other name attributes hcontent
  · exact h other name attributes hcontent

theorem Within.createText {a : Arena} (h : a.Within P) (content : String) :
    (a.create (.text content)).Within P :=
  h.create fun _ _ heq => by cases heq

theorem Within.appendText {a : Arena} (h : a.Within P) (parent : NodeId) (content : String) :
    (a.appendText parent content).Within P := by
  unfold Arena.appendText
  split
  · exact h.extend _ _
  · exact (h.createText content).append _ _

theorem Within.insertTextBefore {a : Arena} (h : a.Within P) (parent sibling : NodeId)
    (content : String) : (a.insertTextBefore parent sibling content).Within P := by
  unfold Arena.insertTextBefore
  split
  · exact h.extend _ _
  · exact (h.createText content).insertBefore _ _ _

theorem Within.moveChildren {a : Arena} (h : a.Within P) (source target : NodeId) :
    (a.moveChildren source target).Within P := by
  have hfold : ∀ (ids : List NodeId) (a : Arena), a.Within P →
      (ids.foldl (fun a id => a.modify id (fun e => { e with parent := some target })) a).Within
        P := by
    intro ids
    induction ids with
    | nil => exact fun a h => h
    | cons id rest ih =>
        intro a h
        rw [List.foldl_cons]
        exact ih _ (Within.modify h id fun e => rfl)
  unfold Arena.moveChildren
  refine Within.modify (Within.modify (hfold _ a h) _ ?_) _ ?_ <;> exact fun e => rfl

end Arena

/-! ## Builders -/

def Formatting.Within (P : ElementName → List Attribute → Prop) : Formatting → Prop
  | .marker => True
  | .element _ tag => P ⟨.html, tag.name⟩ tag.attributes

/-- What it takes of the tags that satisfy `A` that a construction from them stays within `P` and
`M`. -/
structure Closed (P : ElementName → List Attribute → Prop) (M : TextMode → Prop) (A : Tag → Prop) :
    Prop extends Admissible A where
  html : ∀ {tag}, A tag → P ⟨.html, tag.name⟩ tag.attributes
  /-- Elements that a document may leave out. -/
  paragraph : P ⟨.html, "p"⟩ []
  rowGroup : P ⟨.html, "tbody"⟩ []
  row : P ⟨.html, "tr"⟩ []
  columnGroup : ∀ {tag}, A tag → tag.name = "col" → P ⟨.html, "colgroup"⟩ []
  /-- An embedded part and what is in it. -/
  embedded : ∀ {tag vocabulary}, A tag → (BodyStart.ofTag tag.name).vocabulary? = some vocabulary →
    P ⟨vocabulary, tag.name⟩ (spellAttributes vocabulary tag.attributes)
  nested : ∀ {tag name attributes}, A tag → name.vocabulary ≠ .html → P name attributes →
    P ⟨name.vocabulary, tag.name⟩ (spellAttributes name.vocabulary tag.attributes)
  data : M .data
  textMode : ∀ {tag mode}, A tag →
    (BodyStart.ofTag tag.name).textMode? tag.name = some mode → M mode

namespace Builder

variable {A : Tag → Prop} {b : Builder}

/-- `P` holds of every element there is and of every one that formatting can still open, and `M` of
the way in which the next characters are read. -/
structure Within (P : ElementName → List Attribute → Prop) (M : TextMode → Prop) (b : Builder) :
    Prop where
  arena : b.arena.Within P
  formatting : ∀ entry ∈ b.formatting, entry.Within P
  textMode : M b.textMode

theorem within_start (h : M .data) : start.Within P M where
  arena := by
    intro id name attributes hcontent
    rw [start, Arena.content, Arena.entry] at hcontent
    cases id with
    | zero => cases hcontent
    | succ n => cases hcontent
  formatting := fun entry hentry => by cases hentry
  textMode := h

/-- An element of an embedded vocabulary is open only if there is one. -/
theorem Within.currentName (h : b.Within P M) (hforeign : b.currentName.vocabulary ≠ .html) :
    ∃ attributes, P b.currentName attributes := by
  unfold Builder.currentName Builder.name Arena.name at hforeign ⊢
  cases hcontent : b.arena.content b.current with
  | element name attributes => exact ⟨attributes, h.arena _ _ _ hcontent⟩
  | text content =>
      rw [hcontent] at hforeign
      exact absurd rfl hforeign
  | comment =>
      rw [hcontent] at hforeign
      exact absurd rfl hforeign
  | root =>
      rw [hcontent] at hforeign
      exact absurd rfl hforeign

theorem Opens.within (hc : Closed P M A) (h : b.Within P M) {name : ElementName}
    {attributes : List Attribute} (hnew : Opens A b name attributes) : P name attributes := by
  cases hnew with
  | tag ht hvoid => exact hc.html ht
  | remembered hentry => exact h.formatting _ hentry
  | implied htag =>
      simp only [List.mem_cons, List.not_mem_nil, or_false] at htag
      rcases htag with rfl | rfl | rfl
      · exact hc.paragraph
      · exact hc.rowGroup
      · exact hc.row
  | columns ht hcol => exact hc.columnGroup ht hcol
  | embedded ht hvocabulary => exact hc.embedded ht hvocabulary
  | nested ht hbreaks hforeign =>
      obtain ⟨attributes, hcurrent⟩ := h.currentName hforeign
      exact hc.nested ht hforeign hcurrent

theorem Within.withArena (h : b.Within P M) {arena : Arena} (ha : arena.Within P) :
    Within P M { b with arena } :=
  ⟨ha, h.formatting, h.textMode⟩

theorem Within.putIn (h : b.Within P M) (target id : NodeId) : (b.putIn target id).Within P M := by
  unfold Builder.putIn
  split
  · exact h.withArena (h.arena.append _ _)
  · exact h.withArena (h.arena.insertBefore _ _ _)

theorem Within.addText (h : b.Within P M) (content : String) : (b.addText content).Within P M := by
  unfold Builder.addText
  split
  · exact h.withArena (h.arena.appendText _ _)
  · exact h.withArena (h.arena.insertTextBefore _ _ _)

theorem Within.insertClosed (h : b.Within P M) {name : ElementName} {attributes : List Attribute}
    (hnew : P name attributes) : (b.insertClosed name attributes).Within P M :=
  (h.withArena (h.arena.createElement hnew)).putIn _ _

/-- **Every edit stays within.** -/
theorem keeps_within (hc : Closed P M A) : Keeps A (Within P M) := by
  intro b b' hedit h
  cases hedit with
  | narrow arena stack formatting textMode =>
      refine ⟨arena ▸ h.arena, ?_, textMode ▸ h.textMode⟩
      intro entry hentry
      rcases List.mem_cons.1 (formatting hentry) with rfl | hentry
      · trivial
      · exact h.formatting entry hentry
  | read hmode =>
      refine ⟨h.arena, h.formatting, ?_⟩
      rcases hmode with rfl | ⟨tag, ht, hmode⟩
      · exact hc.data
      · exact hc.textMode ht hmode
  | addText content => exact h.addText content
  | addComment => exact (h.withArena (h.arena.create fun _ _ heq => by cases heq)).putIn _ _
  | insertVoid ht => exact h.insertClosed (hc.html ht)
  | insertClosed hnew => exact h.insertClosed (hnew.within hc h)
  | insertNamed hnew =>
      obtain ⟨arena, formatting, textMode⟩ := h.insertClosed (hnew.within hc h)
      exact ⟨arena, formatting, textMode⟩
  | remember hnew id =>
      refine ⟨h.arena, List.forall_mem_cons.2 ⟨?_, h.formatting⟩, h.textMode⟩
      exact hnew.within hc h
  | create hnew => exact ⟨h.arena.createElement (hnew.within hc h), h.formatting, h.textMode⟩
  | detach id => exact h.withArena (h.arena.detach id)
  | append hparent id => exact h.withArena (h.arena.append _ id)
  | moveChildren htarget source => exact h.withArena (h.arena.moveChildren source _)
  | putIn htarget id => exact h.putIn _ id

end Builder

/-! ## The finished tree -/

theorem within_nodes? {a : Arena} (h : a.Within P) {levels : Nat} {ids : List NodeId}
    {nodes : List Node} (hnodes : a.nodes? levels ids = some nodes) :
    ∀ e ∈ elements nodes, ∃ vocabulary, P ⟨vocabulary, e.tag⟩ e.attributes := by
  intro e he
  obtain ⟨holding, hholding, rfl⟩ := mem_elements_iff.1 he
  obtain ⟨id, vocabulary, -, hcontent, -⟩ := mem_holdings_nodes? hnodes holding hholding
  exact ⟨vocabulary, h id _ _ hcontent⟩

end SafeReadme.Html
