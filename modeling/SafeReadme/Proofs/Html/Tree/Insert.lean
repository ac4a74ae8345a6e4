import SafeReadme.Proofs.Html.Tree.Within

/-!
# New nodes in a body

Outside tables nothing is moved: a new node becomes the last child of the innermost open element, and
the rules of the body take every token themselves.
-/

namespace SafeReadme.Html

namespace Arena

variable {a : Arena}

/-- A new node under `parent` is its last child, and changes nothing else. -/
theorem entry_append_create {parent : Nat} (hparent : parent < a.size) (content : Content)
    (id : Nat) :
    ((a.create content).append parent a.size).entry id =
      if id = a.size then ⟨content, some parent, [], none⟩
      else if id = parent then { a.entry id with children := a.size :: (a.entry id).children }
      else a.entry id := by
  have hsize : (a.create content).size = a.size + 1 := Array.size_push ..
  have hsize' (f : Entry → Entry) : ((a.create content).modify parent f).size = a.size + 1 := by
    rw [← hsize]
    exact Array.size_modify ..
  rw [append, entry_modify, entry_modify, hsize', hsize, create, entry_push]
  have hother : parent ≠ a.size := Nat.ne_of_lt hparent
  by_cases hnew : id = a.size
  · simp [hnew, hother]
  · by_cases hid : id = parent
    · simp [hid, hother, hother.symm, Nat.lt_succ_of_lt hparent]
    · simp [hnew, hid, Ne.symm hnew, Ne.symm hid]

theorem size_append_create (parent : NodeId) (content : Content) :
    ((a.create content).append parent a.size).size = a.size + 1 := by
  simp [append, modify, create, size]

end Arena

namespace Builder

variable {b : Builder}

/-- A token of a document whose characters are read as data is taken, and the run goes on behind it. -/
theorem run_of_next? (hdata : b.textMode = .data) {cs : List Char} {lexed : Lexed}
    (hnext : next? .data b.allowsSections cs = some lexed) (count : Nat) :
    run (count + 1) b cs = run count (b.next lexed.token) lexed.rest := by
  rw [run, hdata, hnext]
  simp

theorem run_nil (count : Nat) (h : b.mode ≠ .tableText) : run count b [] = b := by
  cases count with
  | zero => rfl
  | succ count =>
      rw [run]
      simp [next?, h]

/-- In a body outside embedded vocabularies, the rules of the body take every token. -/
theorem take_of_body (hmode : b.mode = .body) (hhtml : b.currentName.vocabulary = .html)
    (token : Token) : b.take token = b.inBody token := by
  have hforeign : b.isForeign token = false := by
    simp [isForeign, hhtml]
  have hstep : b.step token = .done (b.inBody token) := by
    rw [step, hforeign, stepMode, hmode]
    rfl
  rw [take, settle, hstep]

theorem reconstruct_of_nil (h : b.formatting = []) : b.reconstruct = b := by
  simp [reconstruct, h]

/-- Content that belongs to no table goes into the element it stands in, unless that has contents of
its own. -/
theorem placeIn_eq_inside (hfostering : b.fostering = false) {target : NodeId}
    (hcontents : (b.arena.entry target).contents = none) : b.placeIn target = .inside target := by
  simp [placeIn, hfostering, hcontents]

theorem insert_eq_append {tag : Tag} (hfostering : b.fostering = false)
    (hcontents : (b.arena.entry b.current).contents = none) (htag : tag.name ≠ "template") :
    b.insert tag =
      { b with
        arena := (b.arena.create (.element ⟨.html, tag.name⟩ tag.attributes)).append b.current
          b.arena.size
        stack := b.arena.size :: b.stack } := by
  have hcreate : b.arena.createElement ⟨.html, tag.name⟩ tag.attributes =
      b.arena.create (.element ⟨.html, tag.name⟩ tag.attributes) := by
    rw [Arena.createElement, if_neg]
    simpa [ElementName.is] using htag
  have hnone : ((b.arena.create (.element ⟨.html, tag.name⟩ tag.attributes)).entry
      b.current).contents = none := by
    rw [Arena.create, Arena.entry_push]
    split
    · rfl
    · exact hcontents
  let created : Builder :=
    { b with arena := b.arena.create (.element ⟨.html, tag.name⟩ tag.attributes) }
  have hplace : created.placeIn b.current = .inside b.current :=
    placeIn_eq_inside (b := created) hfostering hnone
  simp only [insert, insertNamed, insertClosed, hcreate, putIn]
  rw [hplace]
  rfl

theorem addText_eq_append (hfostering : b.fostering = false)
    (hcontents : (b.arena.entry b.current).contents = none)
    (hempty : (b.arena.entry b.current).children = []) (content : String) :
    b.addText content =
      { b with arena := (b.arena.create (.text content)).append b.current b.arena.size } := by
  simp [addText, placeIn_eq_inside hfostering hcontents, Arena.appendText, hempty,
    Arena.leadingText?]

end Builder

end SafeReadme.Html
