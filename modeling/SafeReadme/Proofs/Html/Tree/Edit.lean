import Mathlib.Logic.Relation
import SafeReadme.Html.Tree.Construct

/-!
# Edits of a tree under construction

The rules for the tokens are many, but what they do to the tree, to the open elements and to the
formatting is made of a few edits. `Edit` lists them with all that the rules heed when they make one:
where a name comes from, and which elements hold what is added. A property that every edit keeps is
kept by every rule and by a whole construction.
-/

namespace SafeReadme.Html

/-- How the content of an element is read that a start tag opens in a body, if not as usual. -/
def BodyStart.textMode? (tag : String) : BodyStart → Option TextMode
  | .title | .textArea => some (.escapable tag)
  | .rawText | .example => some (.raw tag)
  | .script => some .script
  | .plainText => some .plain
  | _ => none

/-- The embedded vocabulary whose first element a start tag opens in a body. -/
def BodyStart.vocabulary? : BodyStart → Option Vocabulary
  | .math => some .math
  | .svg => some .svg
  | _ => none

/-- What it takes that the rules add elements only from tags that satisfy `A`. -/
structure Admissible (A : Tag → Prop) : Prop where
  /-- An `image` is read as an `img`. -/
  image : ∀ {tag}, A tag → tag.name = "image" → A { tag with name := "img" }
  /-- The end tag of a line break is read as a start tag. -/
  lineBreak : A ⟨"br", [], false⟩

def Token.Admits (A : Tag → Prop) : Token → Prop
  | .startTag tag => A tag
  | _ => True

theorem drop_dropWhile_subset {α : Type} (p : α → Bool) (xs : List α) :
    (xs.dropWhile p).drop 1 ⊆ xs :=
  fun _ hx => (List.dropWhile_sublist _).subset (List.mem_of_mem_drop hx)

namespace Builder

variable {A : Tag → Prop} {b₀ b b' : Builder}

/-- The elements that can be opened, the start tags being such that satisfy `A`. -/
inductive Opens (A : Tag → Prop) (b : Builder) : ElementName → List Attribute → Prop where
  | tag {tag : Tag} : A tag → isVoid tag.name = false → Opens A b ⟨.html, tag.name⟩ tag.attributes
  | remembered {id : NodeId} {tag : Tag} : .element id tag ∈ b.formatting →
      Opens A b ⟨.html, tag.name⟩ tag.attributes
  /-- Elements that a document may leave out. -/
  | implied {tag : String} : tag ∈ ["p", "tbody", "tr"] → Opens A b ⟨.html, tag⟩ []
  | columns {tag : Tag} : A tag → tag.name = "col" → Opens A b ⟨.html, "colgroup"⟩ []
  /-- An embedded part and what is in it. -/
  | embedded {tag : Tag} {vocabulary : Vocabulary} : A tag →
      (BodyStart.ofTag tag.name).vocabulary? = some vocabulary →
      Opens A b ⟨vocabulary, tag.name⟩ (spellAttributes vocabulary tag.attributes)
  | nested {tag : Tag} : A tag → tag.breaksOut = false → b.currentName.vocabulary ≠ .html →
      Opens A b ⟨b.currentName.vocabulary, tag.name⟩
        (spellAttributes b.currentName.vocabulary tag.attributes)

inductive Edit (A : Tag → Prop) : Builder → Builder → Prop where
  /-- Elements are closed, formatting is forgotten or bordered, and what the rules remember else
  changes. -/
  | narrow {b b' : Builder} (arena : b'.arena = b.arena) (stack : b'.stack ⊆ b.stack)
      (formatting : b'.formatting ⊆ .marker :: b.formatting) (textMode : b'.textMode = b.textMode) :
      Edit A b b'
  /-- The next characters are read in another way. -/
  | read {b : Builder} {textMode : TextMode} (h : textMode = .data ∨ ∃ tag, A tag ∧
      (BodyStart.ofTag tag.name).textMode? tag.name = some textMode) : Edit A b { b with textMode }
  | addText (b : Builder) (content : String) : Edit A b (b.addText content)
  | addComment (b : Builder) : Edit A b b.addComment
  | insertVoid {b : Builder} {tag : Tag} (h : A tag) : Edit A b (b.insertVoid tag)
  | insertClosed {b : Builder} {name : ElementName} {attributes : List Attribute}
      (h : Opens A b name attributes) : Edit A b (b.insertClosed name attributes)
  | insertNamed {b : Builder} {name : ElementName} {attributes : List Attribute}
      (h : Opens A b name attributes) : Edit A b (b.insertNamed name attributes)
  /-- A tag is remembered as formatting. -/
  | remember {b : Builder} {tag : Tag} (h : Opens A b ⟨.html, tag.name⟩ tag.attributes)
      (id : NodeId) : Edit A b { b with formatting := .element id tag :: b.formatting }
  /-- An element is opened that has no place yet. -/
  | create {b : Builder} {name : ElementName} {attributes : List Attribute}
      (h : Opens A b name attributes) :
      Edit A b { b with
        arena := b.arena.createElement name attributes
        stack := b.arena.size :: b.stack }
  /-- A node is moved to an open element or to the top. -/
  | detach (b : Builder) (id : NodeId) : Edit A b { b with arena := b.arena.detach id }
  | append {b : Builder} {parent : NodeId} (h : parent ∈ b.stack) (id : NodeId) :
      Edit A b { b with arena := b.arena.append parent id }
  | moveChildren {b : Builder} {target : NodeId} (h : target ∈ b.stack) (source : NodeId) :
      Edit A b { b with arena := b.arena.moveChildren source target }
  | putIn {b : Builder} {target : NodeId} (h : target ∈ b.stack ∨ target = 0) (id : NodeId) :
      Edit A b (b.putIn target id)

def Edits (A : Tag → Prop) : Builder → Builder → Prop :=
  Relation.ReflTransGen (Edit A)

/-- A property that every edit keeps. -/
def Keeps (A : Tag → Prop) (I : Builder → Prop) : Prop :=
  ∀ b b', Edit A b b' → I b → I b'

namespace Edits

theorem refl (b : Builder) : Edits A b b :=
  Relation.ReflTransGen.refl

theorem trans {b₁ b₂ b₃ : Builder} (h : Edits A b₁ b₂) (h' : Edits A b₂ b₃) : Edits A b₁ b₃ :=
  Relation.ReflTransGen.trans h h'

theorem edit (h : Edits A b₀ b) (h' : Edit A b b') : Edits A b₀ b' :=
  Relation.ReflTransGen.tail h h'

theorem keeps {I : Builder → Prop} (hI : Keeps A I) (h : Edits A b₀ b) (h₀ : I b₀) : I b := by
  induction h with
  | refl => exact h₀
  | tail _ hedit ih => exact hI _ _ hedit ih

/-! ## Steps that only close or change the mode -/

theorem close_to (h : Edits A b₀ b) (arena : b'.arena = b.arena) (stack : b'.stack ⊆ b.stack)
    (formatting : b'.formatting = b.formatting) (textMode : b'.textMode = b.textMode) :
    Edits A b₀ b' :=
  h.edit (.narrow arena stack (formatting ▸ List.subset_cons_self _ _) textMode)

/-- What is neither in the tree nor open nor formatting may change at will. -/
theorem turn (h : Edits A b₀ b) (hsame : (b'.arena, b'.stack, b'.formatting, b'.textMode) =
    (b.arena, b.stack, b.formatting, b.textMode)) : Edits A b₀ b' := by
  obtain ⟨arena, stack, formatting, textMode⟩ : b'.arena = b.arena ∧ b'.stack = b.stack ∧
      b'.formatting = b.formatting ∧ b'.textMode = b.textMode := by simpa using hsame
  exact h.close_to arena (stack ▸ List.Subset.refl _) formatting textMode

theorem forget (h : Edits A b₀ b) {formatting : List Formatting}
    (hsub : formatting ⊆ b.formatting) : Edits A b₀ { b with formatting } :=
  h.edit (.narrow rfl (List.Subset.refl _) (List.subset_cons_of_subset _ hsub) rfl)

theorem pop (h : Edits A b₀ b) : Edits A b₀ b.pop :=
  h.close_to rfl (List.drop_subset _ _) rfl rfl

theorem popTo (h : Edits A b₀ b) (p : ElementName → Bool) : Edits A b₀ (b.popTo p) :=
  h.close_to rfl (List.dropWhile_sublist _).subset rfl rfl

theorem popThrough (h : Edits A b₀ b) (p : ElementName → Bool) : Edits A b₀ (b.popThrough p) :=
  (h.popTo p).pop

theorem close (h : Edits A b₀ b) (tag : String) : Edits A b₀ (b.close tag) :=
  h.popThrough _

theorem closeThrough (h : Edits A b₀ b) (p : NodeId → Bool) :
    Edits A b₀ { b with stack := (b.stack.dropWhile p).drop 1 } :=
  h.close_to rfl (drop_dropWhile_subset p _) rfl rfl

theorem unstack (h : Edits A b₀ b) (id : NodeId) : Edits A b₀ (b.unstack id) :=
  h.close_to rfl List.filter_sublist.subset rfl rfl

theorem implyEnds (h : Edits A b₀ b) (tags : List String) : Edits A b₀ (b.implyEnds tags) :=
  h.close_to rfl (List.dropWhile_sublist _).subset rfl rfl

theorem implyEndsExcept (h : Edits A b₀ b) (tag : String) : Edits A b₀ (b.implyEndsExcept tag) :=
  h.implyEnds _

theorem implyAllEnds (h : Edits A b₀ b) : Edits A b₀ b.implyAllEnds :=
  h.implyEnds _

theorem enter (h : Edits A b₀ b) (mode : Mode) : Edits A b₀ (b.enter mode) :=
  h.turn rfl

theorem resetMode (h : Edits A b₀ b) : Edits A b₀ b.resetMode :=
  h.enter _

/-- A step that is taken only under a condition. -/
theorem orKeep (h : Edits A b₀ b) (condition : Bool) (h' : Edits A b₀ b') :
    Edits A b₀ (if condition then b' else b) := by
  split
  · exact h'
  · exact h

theorem closeParagraph (h : Edits A b₀ b) : Edits A b₀ b.closeParagraph :=
  h.orKeep _ ((h.implyEndsExcept "p").close "p")

theorem popIf (h : Edits A b₀ b) (condition : Bool) :
    Edits A b₀ (if condition then b.pop else b) :=
  h.orKeep _ h.pop

/-! ## Insertion -/

theorem addText (h : Edits A b₀ b) (content : String) : Edits A b₀ (b.addText content) :=
  h.edit (.addText b content)

theorem addComment (h : Edits A b₀ b) : Edits A b₀ b.addComment :=
  h.edit (.addComment b)

theorem insertVoid (h : Edits A b₀ b) {tag : Tag} (ht : A tag) : Edits A b₀ (b.insertVoid tag) :=
  h.edit (.insertVoid ht)

theorem insert (h : Edits A b₀ b) {tag : Tag} (hnew : Opens A b ⟨.html, tag.name⟩ tag.attributes) :
    Edits A b₀ (b.insert tag) :=
  h.edit (.insertNamed hnew)

theorem insertImplied (h : Edits A b₀ b) {tag : String} (hnew : Opens A b ⟨.html, tag⟩ []) :
    Edits A b₀ (b.insertImplied tag) :=
  h.edit (.insertNamed hnew)

theorem insertForeign (h : Edits A b₀ b) {vocabulary : Vocabulary} {tag : Tag}
    (hnew : Opens A b ⟨vocabulary, tag.name⟩ (spellAttributes vocabulary tag.attributes)) :
    Edits A b₀ (b.insertForeign vocabulary tag) := by
  unfold Builder.insertForeign
  simp only
  split
  · exact h.edit (.insertClosed hnew)
  · exact h.edit (.insertNamed hnew)

theorem readAs (h : Edits A b₀ b) {tag : Tag} (ht : A tag) {textMode : TextMode}
    (hmode : (BodyStart.ofTag tag.name).textMode? tag.name = some textMode) :
    Edits A b₀ { b with textMode } :=
  h.edit (.read (.inr ⟨tag, ht, hmode⟩))

theorem insertText (h : Edits A b₀ b) {tag : Tag} (ht : A tag) (hvoid : isVoid tag.name = false)
    {textMode : TextMode}
    (hmode : (BodyStart.ofTag tag.name).textMode? tag.name = some textMode) :
    Edits A b₀ (b.insertText tag textMode) :=
  ((h.insert (.tag ht hvoid)).readAs ht hmode).turn rfl

theorem dropNewline (h : Edits A b₀ b) : Edits A b₀ b.dropNewline :=
  h.turn rfl

end Edits

/-! ## What a node's place does not depend on -/

@[simp] theorem stack_putIn (b : Builder) (target id : NodeId) :
    (b.putIn target id).stack = b.stack := by
  unfold putIn
  split <;> rfl

@[simp] theorem formatting_putIn (b : Builder) (target id : NodeId) :
    (b.putIn target id).formatting = b.formatting := by
  unfold putIn
  split <;> rfl

@[simp] theorem formatting_insert (b : Builder) (tag : Tag) :
    (b.insert tag).formatting = b.formatting :=
  formatting_putIn _ _ _

theorem fosterPlace_withFormatting (b : Builder) (formatting : List Formatting)
    (ids : List NodeId) : fosterPlace { b with formatting } ids = b.fosterPlace ids := by
  induction ids with
  | nil => rfl
  | cons id rest ih =>
      unfold fosterPlace
      rw [ih]
      rfl

theorem putIn_withFormatting (b : Builder) (formatting : List Formatting) (target id : NodeId) :
    putIn { b with formatting } target id = { b.putIn target id with formatting } := by
  have hplace : placeIn { b with formatting } target = b.placeIn target := by
    unfold placeIn
    rw [fosterPlace_withFormatting]
    rfl
  unfold putIn
  rw [hplace]
  cases b.placeIn target <;> rfl

theorem insert_withFormatting (b : Builder) (formatting : List Formatting) (tag : Tag) :
    insert { b with formatting } tag = { b.insert tag with formatting } := by
  have hput := putIn_withFormatting
    { b with arena := b.arena.createElement ⟨.html, tag.name⟩ tag.attributes } formatting
    b.current b.arena.size
  exact congrArg (·.push b.arena.size) hput

end Builder

end SafeReadme.Html
