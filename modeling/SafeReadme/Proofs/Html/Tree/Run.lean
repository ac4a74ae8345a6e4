import SafeReadme.Html.Tree.Construct
import SafeReadme.Proofs.Html.Elements
import SafeReadme.Proofs.Html.Tree.Rules

/-!
# A whole construction in edits

One step after another takes the tokens of a document. If the start tags among them are admitted, what
every edit keeps holds of the finished tree. Every element of the forest that is read from it is an
entry of the tree, with the children of that entry.
-/

namespace SafeReadme.Html

namespace Builder

variable {A : Tag → Prop} {b₀ b : Builder}

/-! ## One token -/

theorem Edits.inText (h : Edits A b₀ b) (token : Token) : Edits A b₀ (b.inText token) := by
  unfold Builder.inText
  split
  · exact h.addText _
  · exact (h.pop.edit (.read (.inl rfl))).turn rfl
  · exact h

theorem edits_stepMode (hA : Admissible A) (h : Edits A b₀ b) {token : Token}
    (ht : token.Admits A) : (b.stepMode token).Edits A b₀ := by
  unfold stepMode
  cases b.mode with
  | body => exact h.inBody hA ht
  | text => exact h.inText token
  | table => exact edits_inTable hA h ht
  | tableText => exact edits_inTableText hA h ht
  | caption => exact edits_inCaption hA h ht
  | columnGroup => exact edits_inColumnGroup h ht
  | tableBody => exact edits_inTableBody hA h ht
  | row => exact edits_inRow hA h ht
  | cell => exact edits_inCell hA h ht
  | select => exact edits_inSelect hA h ht
  | selectInTable => exact edits_inSelectInTable hA h ht
  | template => exact edits_inTemplateContent hA h ht

theorem edits_stepForeign (hA : Admissible A) (h : Edits A b₀ b)
    (hforeign : b.currentName.vocabulary ≠ .html) {token : Token} (ht : token.Admits A) :
    (b.stepForeign token).Edits A b₀ := by
  have hleft : Edits A b₀ b.leaveForeign := h.popTo _
  unfold stepForeign
  cases token with
  | text content keepsNewline => exact h.addText content
  | null => exact h.addText _
  | comment => exact h.addComment
  | startTag tag =>
      simp only
      split
      · exact edits_stepMode hA hleft ht
      next hbreaks => exact h.insertForeign (.nested ht (Bool.eq_false_iff.2 hbreaks) hforeign)
  | endTag name =>
      refine edits_ite (fun _ => edits_stepMode hA hleft ht) ?_
      split
      · exact h.closeThrough _
      · exact edits_stepMode hA h ht
      · exact h
  | cdata content => exact h
  | ignored => exact h

theorem edits_step (hA : Admissible A) (h : Edits A b₀ b) {token : Token}
    (ht : token.Admits A) : (b.step token).Edits A b₀ := by
  refine edits_ite (fun hforeign => edits_stepForeign hA h ?_ ht) (edits_stepMode hA h ht)
  intro hhtml
  unfold isForeign at hforeign
  simp [hhtml] at hforeign

namespace Edits

theorem settle (hA : Admissible A) (rounds : Nat) (h : Edits A b₀ b) {token : Token}
    (ht : token.Admits A) : Edits A b₀ (Builder.settle rounds token b) := by
  -- What is left of a token after some rules may be another token, which is admitted too.
  induction rounds generalizing b token with
  | zero => exact h
  | succ rounds ih =>
      have hstep := edits_step hA h ht
      rw [Builder.settle]
      split
      next hdone =>
        rw [hdone] at hstep
        exact hstep
      next hagain =>
        rw [hagain] at hstep
        exact ih hstep.1 hstep.2

theorem take (hA : Admissible A) (h : Edits A b₀ b) {token : Token} (ht : token.Admits A) :
    Edits A b₀ (b.take token) :=
  h.settle hA _ ht

theorem takeText (hA : Admissible A) (h : Edits A b₀ b) (content : String)
    (keepsNewline : Bool) : Edits A b₀ (b.takeText content keepsNewline) := by
  have hkept : Edits A b₀ { b with dropsNewline := false } := h.turn rfl
  unfold Builder.takeText
  simp only
  split
  · split
    · exact hkept
    · exact hkept.take hA trivial
  · split
    · exact hkept
    · exact hkept.take hA trivial

theorem takeSection (hA : Admissible A) (h : Edits A b₀ b) (done : String) (cs : List Char) :
    Edits A b₀ (b.takeSection done cs) := by
  induction cs generalizing b done with
  | nil => exact h.takeText hA done true
  | cons c cs ih =>
      rw [Builder.takeSection]
      split
      · have hnull : Token.null.Admits A := trivial
        exact ih ((h.takeText hA done true).take hA hnull) ""
      · exact ih h _

theorem next (hA : Admissible A) (h : Edits A b₀ b) {token : Token} (ht : token.Admits A) :
    Edits A b₀ (b.next token) := by
  have hkept : Edits A b₀ { b with dropsNewline := false } := h.turn rfl
  unfold Builder.next
  split
  · exact h.takeText hA _ _
  · exact h.takeSection hA _ _
  · exact hkept
  · exact hkept.take hA ht

end Edits

/-! ## A whole document -/

/-- Characters whose tokens all have start tags that satisfy `A`, as long as the construction
satisfies `I`. -/
structure Feeds (I : Builder → Prop) (A : Tag → Prop) (S : List Char → Prop) : Prop where
  token : ∀ {b : Builder} {cs lexed}, I b → S cs →
    next? b.textMode b.allowsSections cs = some lexed → lexed.token.Admits A
  rest : ∀ {b : Builder} {cs lexed}, I b → S cs →
    next? b.textMode b.allowsSections cs = some lexed → S lexed.rest
  mark : ∀ {cs}, S cs → S (dropMark cs)

theorem feeds_all (I : Builder → Prop) : Feeds I (fun _ => True) (fun _ => True) where
  token := by
    intro b cs lexed _ _ _
    cases lexed.token <;> trivial
  rest := fun _ _ _ => trivial
  mark := fun _ => trivial

/-- **What every edit keeps holds throughout a construction**, however many tokens it takes. -/
theorem Keeps.run {I : Builder → Prop} (hI : Keeps A I) (hA : Admissible A) {S : List Char → Prop}
    (hs : Feeds I A S) (count : Nat) {cs : List Char} (h : I b) (hcs : S cs) :
    I (run count b cs) := by
  induction count generalizing b cs with
  | zero => exact h
  | succ count ih =>
      rw [Builder.run]
      split
      · split
        · exact ((Edits.refl b).placePendingText hA).keeps hI h
        · exact h
      next lexed hlexed =>
        have hrest := hs.rest h hcs hlexed
        refine ih (((Edits.refl b).next hA (hs.token h hcs hlexed)).keeps hI h) ?_
        split
        · exact hs.mark hrest
        · exact hrest

end Builder

/-! ## The finished tree -/

theorem mem_of_mapM_eq_some {α β : Type} {f : α → Option β} {xs : List α} {ys : List β}
    (h : xs.mapM f = some ys) : ∀ y ∈ ys, ∃ x ∈ xs, f x = some y := by
  induction xs generalizing ys with
  | nil =>
      rw [List.mapM_nil] at h
      cases h
      intro y hy
      cases hy
  | cons x rest ih =>
      rw [List.mapM_cons] at h
      obtain ⟨first, hfirst, h⟩ := Option.bind_eq_some_iff.1 h
      obtain ⟨others, hothers, h⟩ := Option.bind_eq_some_iff.1 h
      cases h
      intro y hy
      rcases List.mem_cons.1 hy with rfl | hy
      · exact ⟨x, by simp, hfirst⟩
      · obtain ⟨x', hx', hf⟩ := ih hothers y hy
        exact ⟨x', List.mem_cons_of_mem _ hx', hf⟩

/-- An element of a forest that is read from an arena is an entry of it, and holds what is read of
the entry's children. -/
theorem mem_holdings_nodes? {a : Arena} {levels : Nat} {ids : List NodeId} {nodes : List Node}
    (hnodes : a.nodes? levels ids = some nodes) :
    ∀ h ∈ holdings nodes, ∃ id vocabulary levels,
      a.content id = .element ⟨vocabulary, h.element.tag⟩ h.element.attributes ∧
        a.nodes? levels (a.entry id).children.reverse = some h.nodes := by
  induction levels generalizing ids nodes with
  | zero =>
      rw [Arena.nodes?] at hnodes
      split at hnodes
      · cases hnodes
        simp
      · cases hnodes
  | succ levels ih =>
      rw [Arena.nodes?] at hnodes
      obtain ⟨trees, htrees, hflat⟩ := Option.bind_eq_some_iff.1 hnodes
      cases hflat
      intro e he
      obtain ⟨tree, htree, he⟩ := mem_holdings_flatten he
      obtain ⟨id, -, hid⟩ := mem_of_mapM_eq_some htrees tree htree
      cases hcontent : a.content id with
      | element name attributes =>
          simp only [hcontent] at hid
          obtain ⟨children, hchildren, hnode⟩ := Option.bind_eq_some_iff.1 hid
          cases hnode
          rcases List.mem_cons.1 (by simpa using he) with rfl | he
          · exact ⟨id, name.vocabulary, levels, hcontent, hchildren⟩
          · exact ih hchildren e he
      | text content =>
          simp only [hcontent, Option.pure_def, Option.some.injEq] at hid
          subst hid
          split at he
          · simp at he
          · simp at he
      | comment =>
          simp only [hcontent, Option.pure_def, Option.some.injEq] at hid
          subst hid
          simp at he
      | root =>
          simp only [hcontent, Option.pure_def, Option.some.injEq] at hid
          subst hid
          simp at he

end SafeReadme.Html
