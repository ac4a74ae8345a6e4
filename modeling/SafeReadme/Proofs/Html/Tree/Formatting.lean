import SafeReadme.Proofs.Html.Tree.Edit

/-!
# Formatting in edits

Formatting elements are opened again and split where tags overlap. Each copy is made from the tag
that its entry remembers. The edits that lead there may remember more and keep more open than the
construction does: what it lacks in the end is forgotten and closed.
-/

namespace SafeReadme.Html

namespace Formatting

theorem mem_of_tagOf? {entries : List Formatting} {id : NodeId} {tag : Tag}
    (h : tagOf? id entries = some tag) : element id tag ∈ entries := by
  induction entries with
  | nil => cases h
  | cons entry rest ih =>
      cases entry with
      | marker => exact List.mem_cons_of_mem _ (ih h)
      | element other tag' =>
          rw [tagOf?] at h
          split at h
          next hother =>
            subst hother
            cases h
            exact List.mem_cons_self
          · exact List.mem_cons_of_mem _ (ih h)

theorem remove_subset (id : NodeId) (entries : List Formatting) : remove id entries ⊆ entries :=
  List.filter_sublist.subset

theorem replace_subset (id : NodeId) (new : Formatting) (entries : List Formatting) :
    replace id new entries ⊆ new :: entries := by
  intro entry hentry
  obtain ⟨old, hold, rfl⟩ := List.mem_map.1 hentry
  split
  · exact List.mem_cons_self
  · exact List.mem_cons_of_mem _ hold

theorem insertLater_subset (id : NodeId) (new : Formatting) (entries : List Formatting) :
    insertLater id new entries ⊆ new :: entries := by
  induction entries with
  | nil => exact List.nil_subset _
  | cons e rest ih =>
      rw [insertLater]
      split
      · exact List.Subset.refl _
      · intro entry hentry
        rcases List.mem_cons.1 hentry with rfl | hentry
        · simp
        · rcases List.mem_cons.1 (ih hentry) with rfl | hentry
          · simp
          · simp [hentry]

theorem recent_subset (entries : List Formatting) : recent entries ⊆ entries :=
  (List.takeWhile_sublist _).subset

theorem removeEarliest_subset (p : Formatting → Bool) (entries : List Formatting) :
    removeEarliest p entries ⊆ entries :=
  fun _ h => List.mem_reverse.1 (List.mem_of_mem_eraseP (List.mem_reverse.1 h))

end Formatting

namespace Builder

variable {A : Tag → Prop} {b₀ b : Builder}

namespace Edits

theorem pushMarker (h : Edits A b₀ b) : Edits A b₀ b.pushMarker :=
  h.edit (.narrow rfl (List.Subset.refl _) (List.Subset.refl _) rfl)

theorem clearFormatting (h : Edits A b₀ b) : Edits A b₀ b.clearFormatting :=
  h.forget (drop_dropWhile_subset _ _)

theorem removeFormatting (h : Edits A b₀ b) (id : NodeId) :
    Edits A b₀ { b with formatting := Formatting.remove id b.formatting } :=
  h.forget (Formatting.remove_subset id _)

theorem remember (h : Edits A b₀ b) {tag : Tag} (hnew : Opens A b ⟨.html, tag.name⟩ tag.attributes)
    (id : NodeId) {formatting : List Formatting}
    (hsub : formatting ⊆ .element id tag :: b.formatting) : Edits A b₀ { b with formatting } :=
  (h.edit (.remember hnew id)).forget hsub

end Edits

/-! ## Opening again -/

theorem edits_reopen {entries : List Formatting} (remembered : List Formatting)
    (hentries : entries ⊆ remembered) (hb : b.formatting ⊆ remembered) :
    Edits A { b with formatting := remembered } (b.reopen entries) := by
  induction entries generalizing b remembered with
  | nil => exact (Edits.refl _).forget hb
  | cons entry rest ih =>
      obtain ⟨hentry, hrest⟩ := List.cons_subset.1 hentries
      cases entry with
      | marker => exact ih remembered hrest hb
      | element id tag =>
          have hopened : Edits A { b with formatting := remembered }
              { b.insert tag with formatting := remembered } := by
            rw [← insert_withFormatting]
            exact (Edits.refl _).insert (.remembered hentry)
          let again : Builder := { b.insert tag with
            formatting := .element b.arena.size tag :: (b.insert tag).formatting }
          have hmarked : Edits A { b with formatting := remembered }
              { again with formatting := .element b.arena.size tag :: remembered } :=
            hopened.remember (.remembered hentry) b.arena.size (List.Subset.refl _)
          have hagain : again.formatting ⊆ .element b.arena.size tag :: remembered := by
            show _ :: (b.insert tag).formatting ⊆ _
            rw [formatting_insert]
            exact List.cons_subset_cons _ hb
          exact hmarked.trans (ih _ (List.subset_cons_of_subset _ hrest) hagain)

namespace Edits

theorem reconstruct (h : Edits A b₀ b) : Edits A b₀ b.reconstruct := by
  unfold Builder.reconstruct
  simp only
  split
  · exact h
  · refine h.trans (edits_reopen b.formatting
      (b := { b with formatting := b.formatting.drop _ }) ?_ (List.drop_subset _ _))
    intro entry hentry
    exact (List.takeWhile_sublist _).subset (List.mem_reverse.1 hentry)

theorem insertFormatting (h : Edits A b₀ b) {tag : Tag} (ht : A tag)
    (hvoid : isVoid tag.name = false) : Edits A b₀ (b.insertFormatting tag) := by
  refine (h.insert (.tag ht hvoid)).remember (.tag ht hvoid) b.arena.size ?_
  rw [formatting_insert]
  apply List.cons_subset_cons
  split
  · exact List.append_subset.2 ⟨List.Subset.trans (Formatting.removeEarliest_subset _ _)
      (Formatting.recent_subset _), List.drop_subset _ _⟩
  · exact List.Subset.refl _

end Edits

/-! ## Overlapping tags -/

/-- Going up makes copies, which stay open beside `stack`, while `entry` is remembered. -/
theorem edits_climbStep {c : Climb} {stack : List NodeId} {entry : Formatting}
    (h : Edits A b₀ { c.builder with
      stack := c.kept ++ stack
      formatting := entry :: c.builder.formatting }) (id : NodeId) :
    Edits A b₀ { (c.step id).builder with
      stack := (c.step id).kept ++ stack
      formatting := entry :: (c.step id).builder.formatting } := by
  unfold Climb.step
  simp only
  split
  · exact h.forget (List.cons_subset_cons _ (Formatting.remove_subset id _))
  · split
    · exact h
    next tag htag =>
      have hentry := List.mem_cons_of_mem entry (Formatting.mem_of_tagOf? htag)
      have hcopied := h.edit (.create (.remembered hentry))
      have hmoved := (hcopied.edit (.detach _ c.carried)).edit
        (.append List.mem_cons_self c.carried)
      refine hmoved.remember (.remembered hentry) c.builder.arena.size ?_
      exact List.cons_subset.2 ⟨by simp, List.Subset.trans (Formatting.replace_subset id _ _)
        (List.cons_subset_cons _ (List.subset_cons_self _ _))⟩

theorem edits_climb {c : Climb} {stack : List NodeId} {entry : Formatting}
    (h : Edits A b₀ { c.builder with
      stack := c.kept ++ stack
      formatting := entry :: c.builder.formatting }) (ids : List NodeId) :
    Edits A b₀ { (ids.foldl Climb.step c).builder with
      stack := (ids.foldl Climb.step c).kept ++ stack
      formatting := entry :: (ids.foldl Climb.step c).builder.formatting } := by
  induction ids generalizing c with
  | nil => exact h
  | cons id rest ih => exact ih (edits_climbStep h id)

theorem of_splitAtLastSpecial? {ids above between : List NodeId} {block : NodeId}
    (h : b.splitAtLastSpecial? ids = some (above, block, between)) : above ++ [block] ⊆ ids := by
  unfold splitAtLastSpecial? at h
  simp only at h
  split at h
  · cases h
  next id rest htake =>
    cases h
    rw [List.dropLast_concat_getLast, ← htake]
    exact List.take_subset _ _

namespace Edits

/-- A copy of a formatting element takes in what an open block holds, and goes into the block. -/
theorem fill (h : Edits A b₀ b) {id block : NodeId} {tag : Tag}
    (hentry : .element id tag ∈ b.formatting) (hblock : block ∈ b.stack) :
    Edits A b₀ { b with
      arena := ((b.arena.createElement ⟨.html, tag.name⟩ tag.attributes).moveChildren block
        b.arena.size).append block b.arena.size
      stack := b.arena.size :: b.stack
      formatting := .element b.arena.size tag :: b.formatting } := by
  have hcreated := (h.edit (.remember (.remembered hentry) b.arena.size)).edit
    (.create (.remembered List.mem_cons_self))
  exact (hcreated.edit (.moveChildren List.mem_cons_self block)).edit
    (.append (List.mem_cons_of_mem _ hblock) b.arena.size)

/-- Splitting needs a tag that is remembered, and what the split stands between to be open. -/
theorem splitAround (h : Edits A b₀ b) {id : NodeId} {tag : Tag}
    (hentry : .element id tag ∈ b.formatting) {above below : List NodeId} {block : NodeId}
    (hopen : above ++ block :: id :: below ⊆ b.stack) (between : List NodeId) :
    Edits A b₀ (b.splitAround id tag above block between below) := by
  have hstart : Edits A b₀ { b with formatting := .element id tag :: b.formatting } :=
    h.edit (.remember (.remembered hentry) id)
  have hclimb := edits_climb (c := ⟨b, 0, block, none, []⟩) hstart between
  unfold Builder.splitAround
  generalize between.foldl Climb.step ⟨b, 0, block, none, []⟩ = climb at hclimb ⊢
  -- What was carried up is put into the common ancestor, while `id` is still open.
  let opened := above ++ block :: climb.kept.reverse ++ id :: below
  have hopened : opened ⊆ climb.kept ++ b.stack := by
    intro x hx
    have hold : x ∈ above ++ block :: id :: below → x ∈ b.stack := @hopen x
    simp only [opened, List.mem_append, List.mem_cons, List.mem_reverse] at hx hold ⊢
    grind
  have hcommon : below.headD 0 ∈ opened ∨ below.headD 0 = 0 := by
    cases below with
    | nil => exact .inr rfl
    | cons x rest => exact .inl (by simp [opened])
  let detached : Builder := { climb.builder with
    arena := climb.builder.arena.detach climb.carried
    stack := opened }
  let placed := detached.putIn (below.headD 0) climb.carried
  have hplaced : Edits A b₀ { placed with formatting := .element id tag :: placed.formatting } := by
    have hclosed : Edits A b₀ { climb.builder with
        stack := opened
        formatting := .element id tag :: climb.builder.formatting } :=
      hclimb.close_to rfl hopened rfl rfl
    have hput := (hclosed.edit (.detach _ climb.carried)).edit (.putIn hcommon climb.carried)
    rw [formatting_putIn, ← putIn_withFormatting]
    exact hput
  have hstack : placed.stack = opened := stack_putIn _ _ _
  have hblock : block ∈ placed.stack := by
    rw [hstack]
    simp [opened]
  refine (hplaced.fill List.mem_cons_self hblock).edit (.narrow rfl ?_ ?_ rfl)
  · intro x hx
    show x ∈ placed.arena.size :: placed.stack
    rw [hstack]
    simp only [List.mem_append, List.mem_cons, opened] at hx ⊢
    grind
  · refine List.subset_cons_of_subset _ ?_
    have hold : ∀ entry, entry :: placed.formatting ⊆
        entry :: .element id tag :: placed.formatting :=
      fun entry => List.cons_subset_cons entry (List.subset_cons_self _ _)
    dsimp only
    cases climb.bookmark with
    | none => exact List.Subset.trans (Formatting.replace_subset id _ _) (hold _)
    | some mark =>
        exact List.Subset.trans (Formatting.remove_subset id _)
          (List.Subset.trans (Formatting.insertLater_subset mark _ _) (hold _))

theorem closeOther (h : Edits A b₀ b) (tag : String) : Edits A b₀ (b.closeOther tag) := by
  unfold Builder.closeOther
  split
  · exact h
  · split
    · exact h
    · exact (h.implyEndsExcept tag).closeThrough _

theorem closeOverlapping (h : Edits A b₀ b) (tag : String) (rounds : Nat) :
    Edits A b₀ (Builder.closeOverlapping tag rounds b) := by
  induction rounds generalizing b with
  | zero => exact h
  | succ rounds ih =>
      rw [Builder.closeOverlapping]
      simp only
      split
      · exact h.closeOther tag
      · exact h.closeOther tag
      next id other hfound =>
        have hentry : Formatting.element id other ∈ b.formatting :=
          Formatting.recent_subset _ (List.mem_of_find?_eq_some hfound)
        split
        · exact h.removeFormatting id
        next hid =>
          have hid : id ∈ b.stack := by simpa using hid
          split
          · exact h
          · split
            · exact (h.closeThrough _).removeFormatting id
            next above block between hsplit =>
              -- The split takes apart what is open above `id`, and what is open below stays.
              refine ih (h.splitAround hentry ?_ between)
              rw [← List.singleton_append, ← List.append_assoc, List.append_subset]
              refine ⟨List.Subset.trans (of_splitAtLastSpecial? hsplit)
                (List.takeWhile_sublist _).subset, ?_⟩
              exact List.cons_subset.2 ⟨hid, drop_dropWhile_subset _ _⟩

theorem closeFormatting (h : Edits A b₀ b) (tag : String) :
    Edits A b₀ (b.closeFormatting tag) := by
  unfold Builder.closeFormatting
  split
  · exact h.pop
  · exact h.closeOverlapping tag 8

theorem closeLink (h : Edits A b₀ b) : Edits A b₀ b.closeLink := by
  unfold Builder.closeLink
  simp only
  split
  · exact ((h.closeFormatting "a").removeFormatting _).unstack _
  · exact h

end Edits

end Builder

end SafeReadme.Html
