import SafeReadme.Proofs.Html.Tree.Within

/-!
# Void elements hold nothing

The construction adds nodes only to open elements, to the place of an open table, and to the copies
of formatting elements. An HTML element with a void name is never open, so it stays without children.
In an embedded vocabulary such a name is one like any other: there only the names of HTML tags that
end the embedded part cannot hold anything.
-/

namespace SafeReadme.Html

def ElementName.holdsNothing (name : ElementName) : Bool :=
  isVoid name.tag && (name.vocabulary == .html || breakoutTags.contains name.tag)

def Content.holdsNothing : Content → Bool
  | .element name _ => name.holdsNothing
  | _ => false

/-- The void names that are ordinary ones in an embedded vocabulary. -/
def voidInHtmlOnly : List String :=
  ["area", "base", "col", "input", "link", "source", "track", "wbr"]

theorem mem_voidInHtmlOnly (name : ElementName) (hvoid : isVoid name.tag = true)
    (hholds : name.holdsNothing = false) : name.tag ∈ voidInHtmlOnly := by
  have hall : ∀ tag ∈ voidElements, breakoutTags.contains tag = false → tag ∈ voidInHtmlOnly := by
    decide
  unfold ElementName.holdsNothing at hholds
  rw [hvoid, Bool.true_and, Bool.or_eq_false_iff] at hholds
  exact hall name.tag (List.contains_iff_mem.1 hvoid) hholds.2

/-! ## Arenas -/

namespace Arena

variable {a a' : Arena} {id : NodeId}

/-- A node in use that others may be put into. -/
def MayHold (a : Arena) (id : NodeId) : Prop :=
  id < a.size ∧ (a.content id).holdsNothing = false

/-- What is to hold nothing has no children, and what the construction puts nodes into may hold
them. -/
structure VoidsEmpty (a : Arena) : Prop where
  top : a.MayHold 0
  children : ∀ id, (a.content id).holdsNothing = true → (a.entry id).children = []
  parent : ∀ id, ∀ parent ∈ (a.entry id).parent, a.MayHold parent
  contents : ∀ id, ∀ contents ∈ (a.entry id).contents, a.MayHold contents

/-- After a change void elements are still empty, and what may hold others still may. -/
structure Evolves (a a' : Arena) : Prop where
  voidsEmpty : a'.VoidsEmpty
  mayHold : ∀ {id}, a.MayHold id → a'.MayHold id

theorem Evolves.trans {a₁ a₂ a₃ : Arena} (h : a₁.Evolves a₂) (h' : a₂.Evolves a₃) :
    a₁.Evolves a₃ :=
  ⟨h'.voidsEmpty, fun hid => h'.mayHold (h.mayHold hid)⟩

/-! ### Entries that change -/

theorem MayHold.modify (h : a.MayHold id) (target : NodeId) {f : Entry → Entry}
    (hcontent : ∀ e, (f e).content.holdsNothing = e.content.holdsNothing) :
    (a.modify target f).MayHold id := by
  refine ⟨by simpa [size, Arena.modify] using h.1, ?_⟩
  rw [content, entry_modify]
  split
  · rw [hcontent]
    exact h.2
  · exact h.2

/-- An entry may get children if it may hold them, and a parent that may hold it. -/
theorem VoidsEmpty.modify (h : a.VoidsEmpty) {target : NodeId} {f : Entry → Entry}
    (hcontent : ∀ e, (f e).content.holdsNothing = e.content.holdsNothing)
    (hchildren : a.MayHold target ∨ ∀ e, e.children = [] → (f e).children = [])
    (hparent : ∀ e, ∀ parent ∈ (f e).parent, parent ∈ e.parent ∨ a.MayHold parent)
    (hcontents : ∀ e, (f e).contents = e.contents) : a.Evolves (a.modify target f) := by
  have hkept : ∀ {id}, a.MayHold id → (a.modify target f).MayHold id :=
    fun hid => hid.modify target hcontent
  refine ⟨⟨hkept h.top, ?children, ?parent, ?contents⟩, hkept⟩
  case children =>
    intro id hholds
    rw [content, entry_modify] at hholds
    rw [entry_modify]
    split
    next hid =>
      rw [if_pos hid, hcontent] at hholds
      rcases hchildren with htarget | hempty
      · rw [hid.1] at htarget
        exact absurd hholds (by rw [← content, htarget.2]; simp)
      · exact hempty _ (h.children id hholds)
    next hid =>
      rw [if_neg hid] at hholds
      exact h.children id hholds
  case parent =>
    intro id parent hmem
    rw [entry_modify] at hmem
    split at hmem
    · rcases hparent _ parent hmem with hold | hnew
      · exact hkept (h.parent id parent hold)
      · exact hkept hnew
    · exact hkept (h.parent id parent hmem)
  case contents =>
    intro id contents hmem
    rw [entry_modify] at hmem
    split at hmem
    · rw [hcontents] at hmem
      exact hkept (h.contents id contents hmem)
    · exact hkept (h.contents id contents hmem)

theorem VoidsEmpty.withChildren (h : a.VoidsEmpty) (target : NodeId)
    (f : List NodeId → List NodeId) (hf : a.MayHold target ∨ f [] = []) :
    a.Evolves (a.modify target fun e => { e with children := f e.children }) := by
  refine h.modify (fun _ => rfl) (hf.imp_right ?_) (fun _ _ hmem => .inl hmem) fun _ => rfl
  intro hempty e he
  rw [he]
  exact hempty

theorem VoidsEmpty.withParent (h : a.VoidsEmpty) (id : NodeId) {parent : Option NodeId}
    (hparent : ∀ p ∈ parent, a.MayHold p) :
    a.Evolves (a.modify id fun e => { e with parent }) :=
  h.modify (fun _ => rfl) (.inr fun _ he => he) (fun _ p hp => .inr (hparent p hp)) fun _ => rfl

theorem VoidsEmpty.withParents (h : a.VoidsEmpty) {parent : NodeId} (hparent : a.MayHold parent)
    (ids : List NodeId) :
    a.Evolves (ids.foldl (fun a id => a.modify id fun e => { e with parent := some parent }) a) := by
  induction ids generalizing a with
  | nil => exact ⟨h, fun hid => hid⟩
  | cons id rest ih =>
      have hmayHold : ∀ p ∈ some parent, a.MayHold p := by
        rintro p ⟨⟩
        exact hparent
      have hfirst := h.withParent id hmayHold
      exact hfirst.trans (ih hfirst.voidsEmpty (hfirst.mayHold hparent))

theorem VoidsEmpty.detach (h : a.VoidsEmpty) (id : NodeId) : a.Evolves (a.detach id) := by
  unfold Arena.detach
  split
  · exact ⟨h, fun hid => hid⟩
  next parent _ =>
    have herased := h.withChildren parent (·.erase id) (.inr rfl)
    exact herased.trans (herased.voidsEmpty.withParent id fun _ hp => by cases hp)

/-- A node becomes a child of one that may hold others, wherever it is put among the children. -/
theorem VoidsEmpty.adopt (h : a.VoidsEmpty) {parent : NodeId} (hparent : a.MayHold parent)
    (id : NodeId) (f : List NodeId → List NodeId) :
    a.Evolves ((a.modify parent fun e => { e with children := f e.children }).modify id
      fun e => { e with parent := some parent }) := by
  have hchild := h.withChildren parent f (.inl hparent)
  exact hchild.trans (hchild.voidsEmpty.withParents (hchild.mayHold hparent) [id])

theorem VoidsEmpty.append (h : a.VoidsEmpty) {parent : NodeId} (hparent : a.MayHold parent)
    (id : NodeId) : a.Evolves (a.append parent id) :=
  h.adopt hparent id (id :: ·)

theorem VoidsEmpty.insertBefore (h : a.VoidsEmpty) {parent : NodeId} (hparent : a.MayHold parent)
    (sibling id : NodeId) : a.Evolves (a.insertBefore parent sibling id) :=
  h.adopt hparent id (placeBefore sibling id)

theorem VoidsEmpty.moveChildren (h : a.VoidsEmpty) {target : NodeId} (htarget : a.MayHold target)
    (source : NodeId) : a.Evolves (a.moveChildren source target) := by
  have hmoved := h.withParents htarget (a.entry source).children
  have hleft := hmoved.trans (hmoved.voidsEmpty.withChildren source (fun _ => []) (.inr rfl))
  exact hleft.trans (hleft.voidsEmpty.withChildren target ((a.entry source).children ++ ·)
    (.inl (hleft.mayHold htarget)))

theorem VoidsEmpty.extend (h : a.VoidsEmpty) (id : NodeId) (more : String) :
    a.Evolves (a.extend id more) := by
  refine h.modify ?content (.inr ?children) ?parent ?contents
  case content =>
    intro e
    cases hcontent : e.content <;> simp [hcontent, Content.holdsNothing]
  case children =>
    intro e he
    split <;> exact he
  case parent =>
    intro e p hp
    left
    split at hp <;> exact hp
  case contents =>
    intro e
    split <;> rfl

/-! ### New entries -/

theorem entry_eq_of_size_le (h : a.size ≤ id) : a.entry id = ⟨.root, none, [], none⟩ := by
  rw [entry, Array.getElem?_eq_none h]
  rfl

/-- New nodes have no children and no parent, and the contents of a template may hold others. -/
theorem VoidsEmpty.grow (h : a.VoidsEmpty) (hsize : a.size ≤ a'.size)
    (hold : ∀ id, id < a.size → a'.entry id = a.entry id)
    (hnew : ∀ id, a.size ≤ id → (a'.entry id).children = [] ∧ (a'.entry id).parent = none ∧
      ∀ contents ∈ (a'.entry id).contents, a'.MayHold contents) : a.Evolves a' := by
  have hkept : ∀ {id}, a.MayHold id → a'.MayHold id := by
    intro id hid
    refine ⟨Nat.lt_of_lt_of_le hid.1 hsize, ?_⟩
    rw [content, hold id hid.1]
    exact hid.2
  refine ⟨⟨hkept h.top, ?children, ?parent, ?contents⟩, hkept⟩
  case children =>
    intro id hholds
    rcases Nat.lt_or_ge id a.size with hid | hid
    · rw [content, hold id hid] at hholds
      rw [hold id hid]
      exact h.children id hholds
    · exact (hnew id hid).1
  case parent =>
    intro id parent hmem
    rcases Nat.lt_or_ge id a.size with hid | hid
    · rw [hold id hid] at hmem
      exact hkept (h.parent id parent hmem)
    · rw [(hnew id hid).2.1] at hmem
      cases hmem
  case contents =>
    intro id contents hmem
    rcases Nat.lt_or_ge id a.size with hid | hid
    · rw [hold id hid] at hmem
      exact hkept (h.contents id contents hmem)
    · exact (hnew id hid).2.2 contents hmem

theorem size_push (a : Arena) (e : Entry) : size ⟨a.entries.push e⟩ = a.size + 1 := by
  simp [size]

theorem VoidsEmpty.create (h : a.VoidsEmpty) (content : Content) :
    a.Evolves (a.create content) := by
  refine h.grow (by simp [Arena.create, size_push]) ?_ ?_
  · intro id hid
    rw [Arena.create, entry_push, if_neg (Nat.ne_of_lt hid)]
  · intro id hid
    rw [Arena.create, entry_push, entry_eq_of_size_le hid]
    split <;> simp

theorem VoidsEmpty.createElement (h : a.VoidsEmpty) (name : ElementName)
    (attributes : List Attribute) : a.Evolves (a.createElement name attributes) := by
  unfold Arena.createElement
  split
  · -- The contents of a template are the second of two new nodes.
    refine h.grow (by simp [size, Nat.add_assoc]) ?_ ?_
    · intro id hid
      rw [entry_push ⟨_⟩, entry_push, size_push, if_neg (Nat.ne_of_lt (Nat.lt_succ_of_lt hid)),
        if_neg (Nat.ne_of_lt hid)]
    · intro id hid
      rw [entry_push ⟨_⟩, entry_push, size_push, entry_eq_of_size_le hid]
      split
      · simp
      · split
        · refine ⟨rfl, rfl, ?_⟩
          rintro contents ⟨⟩
          refine ⟨by simp [size], ?_⟩
          rw [content, entry_push ⟨_⟩, size_push, if_pos rfl]
          rfl
        · simp
  · exact h.create _

theorem mayHold_createElement {name : ElementName} (hname : name.holdsNothing = false)
    (attributes : List Attribute) : (a.createElement name attributes).MayHold a.size := by
  unfold Arena.createElement
  split
  · refine ⟨by simp [size, Nat.add_assoc], ?_⟩
    rw [content, entry_push ⟨_⟩, entry_push, size_push, if_neg (Nat.ne_of_lt (Nat.lt_succ_self _)),
      if_pos rfl]
    exact hname
  · refine ⟨by simp [Arena.create, size], ?_⟩
    rw [content, Arena.create, entry_push, if_pos rfl]
    exact hname

theorem VoidsEmpty.appendText (h : a.VoidsEmpty) {parent : NodeId} (hparent : a.MayHold parent)
    (content : String) : a.Evolves (a.appendText parent content) := by
  unfold Arena.appendText
  split
  · exact h.extend _ _
  · have hcreated := h.create (.text content)
    exact hcreated.trans (hcreated.voidsEmpty.append (hcreated.mayHold hparent) _)

theorem VoidsEmpty.insertTextBefore (h : a.VoidsEmpty) {parent : NodeId}
    (hparent : a.MayHold parent) (sibling : NodeId) (content : String) :
    a.Evolves (a.insertTextBefore parent sibling content) := by
  unfold Arena.insertTextBefore
  split
  · exact h.extend _ _
  · have hcreated := h.create (.text content)
    exact hcreated.trans
      (hcreated.voidsEmpty.insertBefore (hcreated.mayHold hparent) sibling _)

end Arena

/-! ## Builders -/

def Place.parent : Place → NodeId
  | .inside parent => parent
  | .before parent _ => parent

namespace Builder

variable {A : Tag → Prop} {b : Builder}

/-- Void elements are empty, and neither open nor remembered as formatting. -/
structure VoidsEmpty (b : Builder) : Prop where
  arena : b.arena.VoidsEmpty
  stack : ∀ id ∈ b.stack, b.arena.MayHold id
  formatting : ∀ entry ∈ b.formatting, entry.Within fun name _ => name.holdsNothing = false

theorem voidsEmpty_start : start.VoidsEmpty where
  arena := by
    have hentry : ∀ id, start.arena.entry id = ⟨.root, none, [], none⟩ := by
      intro id
      cases id <;> rfl
    have htop : start.arena.MayHold 0 := ⟨Nat.zero_lt_one, rfl⟩
    exact {
      top := htop
      children := fun id _ => by rw [hentry]
      parent := fun id parent hmem => by
        rw [hentry] at hmem
        cases hmem
      contents := fun id contents hmem => by
        rw [hentry] at hmem
        cases hmem }
  stack := by
    intro id hid
    rw [List.mem_singleton.1 hid]
    exact ⟨Nat.zero_lt_one, rfl⟩
  formatting := fun entry hentry => by cases hentry

theorem Opens.holdsNothing (h : b.VoidsEmpty) {name : ElementName} {attributes : List Attribute}
    (hnew : Opens A b name attributes) : name.holdsNothing = false := by
  cases hnew with
  | tag ht hvoid => simp [ElementName.holdsNothing, hvoid]
  | remembered hentry => exact h.formatting _ hentry
  | implied htag =>
      simp only [List.mem_cons, List.not_mem_nil, or_false] at htag
      rcases htag with rfl | rfl | rfl <;> decide
  | columns ht hcol => decide
  | @embedded tag vocabulary ht hvocabulary =>
      have hopens : (BodyStart.ofTag tag.name).opens = true := by
        generalize BodyStart.ofTag tag.name = kind at hvocabulary
        cases kind <;> first | rfl | cases hvocabulary
      simp [ElementName.holdsNothing, isVoid_of_opens hopens]
  | nested ht hbreaks hforeign =>
      rw [ElementName.holdsNothing, (Bool.or_eq_false_iff.1 hbreaks).1, beq_false_of_ne hforeign]
      simp

theorem VoidsEmpty.evolve (h : b.VoidsEmpty) {arena : Arena} (ha : b.arena.Evolves arena) :
    VoidsEmpty { b with arena } :=
  ⟨ha.voidsEmpty, fun id hid => ha.mayHold (h.stack id hid), h.formatting⟩

theorem VoidsEmpty.headD (h : b.VoidsEmpty) {ids : List NodeId} (hids : ids ⊆ b.stack) :
    b.arena.MayHold (ids.headD 0) := by
  cases ids with
  | nil => exact h.arena.top
  | cons id rest => exact h.stack id (hids List.mem_cons_self)

theorem VoidsEmpty.contents (h : b.VoidsEmpty) {id : NodeId} (hid : b.arena.MayHold id) :
    b.arena.MayHold ((b.arena.entry id).contents.getD id) := by
  cases hcontents : (b.arena.entry id).contents with
  | none => exact hid
  | some contents => exact h.arena.contents id contents hcontents

theorem VoidsEmpty.fosterPlace (h : b.VoidsEmpty) {ids : List NodeId} (hids : ids ⊆ b.stack) :
    b.arena.MayHold (b.fosterPlace ids).parent := by
  induction ids with
  | nil => exact h.arena.top
  | cons id rest ih =>
      obtain ⟨hid, hrest⟩ := List.cons_subset.1 hids
      rw [Builder.fosterPlace]
      split
      · exact h.contents (h.stack id hid)
      · split
        · split
          next parent hparent => exact h.arena.parent id parent hparent
          · exact h.headD hrest
        · exact ih hrest

/-- Nodes are added only where they may be held. -/
theorem VoidsEmpty.placeIn (h : b.VoidsEmpty) {target : NodeId} (htarget : b.arena.MayHold target) :
    b.arena.MayHold (b.placeIn target).parent := by
  unfold Builder.placeIn
  split
  · exact h.fosterPlace (List.Subset.refl _)
  · exact h.contents htarget

theorem VoidsEmpty.evolves_putIn (h : b.VoidsEmpty) {target : NodeId}
    (htarget : b.arena.MayHold target) (id : NodeId) :
    b.arena.Evolves (b.putIn target id).arena := by
  have hplace := h.placeIn htarget
  unfold Builder.putIn
  cases hp : b.placeIn target with
  | inside parent =>
      rw [hp] at hplace
      exact h.arena.append hplace id
  | before parent sibling =>
      rw [hp] at hplace
      exact h.arena.insertBefore hplace sibling id

theorem VoidsEmpty.putIn (h : b.VoidsEmpty) {target : NodeId} (htarget : b.arena.MayHold target)
    (id : NodeId) : (b.putIn target id).VoidsEmpty where
  arena := (h.evolves_putIn htarget id).voidsEmpty
  stack := by
    rw [stack_putIn]
    exact fun id' hid => (h.evolves_putIn htarget id).mayHold (h.stack id' hid)
  formatting := by
    rw [formatting_putIn]
    exact h.formatting

theorem VoidsEmpty.addText (h : b.VoidsEmpty) (content : String) :
    (b.addText content).VoidsEmpty := by
  have hplace := h.placeIn (h.headD (List.Subset.refl b.stack))
  unfold Builder.addText Builder.current
  cases hp : b.placeIn (b.stack.headD 0) with
  | inside parent =>
      rw [hp] at hplace
      exact h.evolve (h.arena.appendText hplace content)
  | before parent sibling =>
      rw [hp] at hplace
      exact h.evolve (h.arena.insertTextBefore hplace sibling content)

theorem VoidsEmpty.insertClosed (h : b.VoidsEmpty) (name : ElementName)
    (attributes : List Attribute) : (b.insertClosed name attributes).VoidsEmpty := by
  have hcreated := h.arena.createElement name attributes
  exact (h.evolve hcreated).putIn (hcreated.mayHold (h.headD (List.Subset.refl _))) _

theorem VoidsEmpty.insertNamed (h : b.VoidsEmpty) {name : ElementName}
    (hname : name.holdsNothing = false) (attributes : List Attribute) :
    (b.insertNamed name attributes).VoidsEmpty := by
  have hinserted := h.insertClosed name attributes
  have hcreated := h.arena.createElement name attributes
  have hput := (h.evolve hcreated).evolves_putIn (hcreated.mayHold (h.headD (List.Subset.refl _)))
    b.arena.size
  refine ⟨hinserted.arena, List.forall_mem_cons.2 ⟨?_, hinserted.stack⟩, hinserted.formatting⟩
  exact hput.mayHold (Arena.mayHold_createElement hname attributes)

/-- **Every edit leaves void elements empty.** -/
theorem keeps_voidsEmpty : Keeps A VoidsEmpty := by
  intro b b' hedit h
  cases hedit with
  | narrow arena stack formatting textMode =>
      refine ⟨arena ▸ h.arena, fun id hid => arena ▸ h.stack id (stack hid), ?_⟩
      intro entry hentry
      rcases List.mem_cons.1 (formatting hentry) with rfl | hentry
      · trivial
      · exact h.formatting entry hentry
  | read hmode => exact ⟨h.arena, h.stack, h.formatting⟩
  | addText content => exact h.addText content
  | addComment =>
      have hcreated := h.arena.create .comment
      exact (h.evolve hcreated).putIn (hcreated.mayHold (h.headD (List.Subset.refl _))) _
  | insertVoid ht => exact h.insertClosed _ _
  | insertClosed hnew => exact h.insertClosed _ _
  | insertNamed hnew => exact h.insertNamed (hnew.holdsNothing h) _
  | remember hnew id =>
      exact ⟨h.arena, h.stack, List.forall_mem_cons.2 ⟨hnew.holdsNothing h, h.formatting⟩⟩
  | @create name attributes hnew =>
      have hcreated := h.arena.createElement name attributes
      refine ⟨hcreated.voidsEmpty, List.forall_mem_cons.2 ⟨?_, ?_⟩, h.formatting⟩
      · exact Arena.mayHold_createElement (hnew.holdsNothing h) attributes
      · exact fun id hid => hcreated.mayHold (h.stack id hid)
  | detach id => exact h.evolve (h.arena.detach id)
  | append hparent id => exact h.evolve (h.arena.append (h.stack _ hparent) id)
  | moveChildren htarget source =>
      exact h.evolve (h.arena.moveChildren (h.stack _ htarget) source)
  | putIn htarget id =>
      refine h.putIn ?_ id
      rcases htarget with htarget | rfl
      · exact h.stack _ htarget
      · exact h.arena.top

theorem voidsEmpty_construct (cs : List Char) : (construct cs).VoidsEmpty :=
  keeps_voidsEmpty.run ⟨fun _ _ => trivial, trivial⟩ (feeds_all _) _ voidsEmpty_start trivial

end Builder

/-! ## The finished tree -/

/-- **Void elements hold nothing where HTML makes them void.** An element that is read with a void
name holds nodes only if the name is void in HTML alone. -/
theorem mem_voidInHtmlOnly_of_read? {html : String} {nodes : List Node}
    (hread : read? html = some nodes) {h : Holding} (hmem : h ∈ holdings nodes)
    (hvoid : isVoid h.element.tag = true) (hnodes : h.nodes ≠ []) :
    h.element.tag ∈ voidInHtmlOnly := by
  obtain ⟨id, vocabulary, levels, hcontent, hchildren⟩ := mem_holdings_nodes? hread h hmem
  refine mem_voidInHtmlOnly ⟨vocabulary, h.element.tag⟩ hvoid
    (Bool.eq_false_iff.2 fun hholds => hnodes ?_)
  have hempty := (Builder.voidsEmpty_construct html.toList).arena.children id
    (by rw [hcontent]; exact hholds)
  rw [hempty] at hchildren
  cases levels with
  | zero => exact (Option.some.inj hchildren).symm
  | succ levels => exact (Option.some.inj hchildren).symm

end SafeReadme.Html
