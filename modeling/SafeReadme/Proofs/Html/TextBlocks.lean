import Mathlib.Data.List.Forall2
import SafeReadme.Html.Tree.Construct
import SafeReadme.Proofs.Html.Tokens
import SafeReadme.Proofs.Html.Tree.Insert

/-!
# Written blocks of text

Paragraphs, preformatted text and headings that hold nothing but text are closed only by their own end
tags. So a reader gets a sequence of such blocks back as it was written, whatever their texts look
like: markup and references in them are escaped, and the newline that a reader drops at the start of
preformatted text is one that the writer has added.
-/

namespace SafeReadme.Html

def blockTags : List String :=
  ["p", "pre", "h1", "h2", "h3", "h4", "h5", "h6"]

/-- An element that holds one text. -/
structure TextBlock where
  tag : String
  attributes : List Attribute
  content : String

namespace TextBlock

variable {block : TextBlock}

def node (block : TextBlock) : Node :=
  .element block.tag block.attributes [.text block.content]

/-- A block that is read as it is written: its names are plain, it holds some text, and no character
is one that a reader changes. -/
structure Readable (block : TextBlock) : Prop where
  tag : block.tag ∈ blockTags
  plain : (Piece.opening block.tag block.attributes).Plain
  values : ∀ a ∈ block.attributes, '\r' ∉ a.value.toList ∧ '\x00' ∉ a.value.toList
  filled : block.content ≠ ""
  content : '\r' ∉ block.content.toList ∧ '\x00' ∉ block.content.toList

/-! ## Pieces -/

/-- The text between the two tags of a block, with the newline that a reader drops. -/
def inner (block : TextBlock) : List Char :=
  if dropsNewline block.tag && block.content.toList.head? == some '\n' then
    '\n' :: block.content.toList
  else block.content.toList

theorem isVoid_of_mem_blockTags {tag : String} (h : tag ∈ blockTags) : isVoid tag = false := by
  have hall : ∀ tag ∈ blockTags, isVoid tag = false := by decide
  exact hall tag h

theorem Readable.pieces (h : block.Readable) :
    block.node.pieces =
      .opening block.tag block.attributes :: (block.inner.map .char ++ [.ending block.tag]) := by
  have hvoid := isVoid_of_mem_blockTags h.tag
  rw [node, Node.pieces, if_neg (by simp [hvoid]), guardPieces, inner, startsWithNewline]
  split <;> simp [Html.pieces, Node.pieces]

theorem Readable.mem_inner (h : block.Readable) : '\r' ∉ block.inner ∧ '\x00' ∉ block.inner := by
  unfold inner
  split <;> simp [h.content]

theorem Readable.exists_inner (h : block.Readable) : ∃ c cs, block.inner = c :: cs := by
  refine List.exists_cons_of_ne_nil ?_
  unfold inner
  split
  · simp
  · simpa using h.filled

theorem Readable.mem_pieces (h : block.Readable) {p : Piece} (hp : p ∈ block.node.pieces) :
    p = .opening block.tag block.attributes ∨ (∃ c ∈ block.inner, p = .char c) ∨
      p = .ending block.tag := by
  rw [h.pieces] at hp
  simpa [eq_comm] using hp

theorem Readable.unbroken (h : block.Readable) {p : Piece} (hp : p ∈ block.node.pieces) :
    p.Unbroken := by
  rcases h.mem_pieces hp with rfl | ⟨c, -, rfl⟩ | rfl
  · exact h.plain.unbroken
  · trivial
  · exact Piece.Plain.unbroken (p := .ending block.tag) h.plain.1

theorem Readable.unify (h : block.Readable) {p : Piece} (hp : p ∈ block.node.pieces) :
    p.unify = p := by
  rcases h.mem_pieces hp with rfl | ⟨c, hc, rfl⟩ | rfl
  · exact Piece.unify_opening fun a ha => (h.values a ha).1
  · rw [Piece.unify, if_neg]
    rintro rfl
    exact h.mem_inner.1 hc
  · rfl

theorem Readable.openingToken_eq (h : block.Readable) :
    openingToken block.tag block.attributes = .startTag ⟨block.tag, block.attributes, false⟩ := by
  rw [Html.openingToken_eq fun a ha => (h.values a ha).2, isVoid_of_mem_blockTags h.tag]

end TextBlock

section Blocks

variable {blocks : List TextBlock}

theorem pieces_map_node (blocks : List TextBlock) :
    pieces (blocks.map TextBlock.node) = blocks.flatMap fun block => block.node.pieces := by
  induction blocks with
  | nil => rfl
  | cons block rest ih => rw [List.map_cons, pieces, ih, List.flatMap_cons]

/-- Blocks start with a tag, and not with a byte order mark. -/
theorem readPieces_blocks (h : ∀ block ∈ blocks, block.Readable) :
    readPieces (blocks.map TextBlock.node) = pieces (blocks.map TextBlock.node) := by
  have hmark : dropMarkPiece (pieces (blocks.map TextBlock.node)) =
      pieces (blocks.map TextBlock.node) := by
    cases blocks with
    | nil => rfl
    | cons block rest =>
        rw [List.map_cons, pieces, (h block (by simp)).pieces]
        rfl
  rw [readPieces, hmark]
  refine unifyPieces_eq_self fun p hp => ?_
  rw [pieces_map_node, List.mem_flatMap] at hp
  obtain ⟨block, hblock, hp⟩ := hp
  exact (h block hblock).unify hp

theorem length_le_length_flatMap_chars (ps : List Piece) :
    ps.length ≤ (ps.flatMap Piece.chars).length := by
  induction ps with
  | nil => simp
  | cons p rest ih =>
      have hchars : 0 < p.chars.length := List.length_pos_iff.2 (chars_ne_nil p)
      rw [List.flatMap_cons, List.length_append, List.length_cons]
      omega

/-- A block is read in three tokens, so a document has characters enough for its blocks. -/
theorem length_write_blocks (h : ∀ block ∈ blocks, block.Readable) :
    3 * blocks.length ≤ (write (blocks.map TextBlock.node)).toList.length := by
  have hpieces : 3 * blocks.length ≤ (pieces (blocks.map TextBlock.node)).length := by
    induction blocks with
    | nil => simp
    | cons block rest ih =>
        have hrest := ih fun other hother => h other (List.mem_cons_of_mem _ hother)
        obtain ⟨c, cs, hinner⟩ := (h block (by simp)).exists_inner
        rw [List.map_cons, pieces, (h block (by simp)).pieces, hinner]
        simp only [List.map_cons, List.length_cons, List.length_append]
        omega
  rw [toList_write]
  exact Nat.le_trans hpieces (length_le_length_flatMap_chars _)

end Blocks

/-! ## The tree of a block -/

namespace Arena

variable {a : Arena} {block : TextBlock}

/-- The tree with the element of a block as the last child of the top. Its entries say all about it, so
it is not unfolded where two constructions are compared. -/
@[irreducible]
def openBlock (a : Arena) (block : TextBlock) : Arena :=
  (a.create (.element ⟨.html, block.tag⟩ block.attributes)).append 0 a.size

@[irreducible]
def addBlock (a : Arena) (block : TextBlock) : Arena :=
  ((a.openBlock block).create (.text block.content)).append a.size (a.openBlock block).size

theorem size_openBlock : (a.openBlock block).size = a.size + 1 := by
  rw [openBlock, size_append_create]

theorem size_addBlock : (a.addBlock block).size = a.size + 2 := by
  rw [addBlock, size_append_create, size_openBlock]

theorem entry_openBlock (hsize : 0 < a.size) (id : Nat) :
    (a.openBlock block).entry id =
      if id = a.size then ⟨.element ⟨.html, block.tag⟩ block.attributes, some 0, [], none⟩
      else if id = 0 then { a.entry id with children := a.size :: (a.entry id).children }
      else a.entry id := by
  rw [openBlock, entry_append_create hsize]

theorem entry_addBlock (block : TextBlock) (hsize : 0 < a.size) (id : Nat) :
    (a.addBlock block).entry id =
      if id = a.size + 1 then ⟨.text block.content, some a.size, [], none⟩
      else if id = a.size then
        ⟨.element ⟨.html, block.tag⟩ block.attributes, some 0, [a.size + 1], none⟩
      else if id = 0 then { a.entry id with children := a.size :: (a.entry id).children }
      else a.entry id := by
  have hlt : a.size < (a.openBlock block).size := by
    rw [size_openBlock]
    exact Nat.lt_succ_self _
  rw [addBlock, entry_append_create hlt, entry_openBlock hsize, size_openBlock]
  by_cases hid : id = a.size
  · simp only [if_pos hid]
  · simp only [if_neg hid]

/-- A node is the element of a block, and the next one is its text. -/
structure IsBlock (a : Arena) (id : Nat) (block : TextBlock) : Prop where
  inside : 0 < id ∧ id + 1 < a.size
  element : a.content id = .element ⟨.html, block.tag⟩ block.attributes
  children : (a.entry id).children = [id + 1]
  text : a.content (id + 1) = .text block.content

/-- A tree with these blocks and nothing else under the top. -/
structure Holds (a : Arena) (blocks : List TextBlock) : Prop where
  size : 0 < a.size
  top : a.content 0 = .root
  contents : (a.entry 0).contents = none
  children : List.Forall₂ a.IsBlock (a.entry 0).children.reverse blocks

variable {blocks : List TextBlock}

theorem IsBlock.addBlock {other : TextBlock} {id : Nat} (hsize : 0 < a.size)
    (h : a.IsBlock id other) : (a.addBlock block).IsBlock id other := by
  have hinside := h.inside
  have hself : (a.addBlock block).entry id = a.entry id := by
    rw [entry_addBlock block hsize, if_neg (by omega), if_neg (by omega), if_neg (by omega)]
  have htext : (a.addBlock block).entry (id + 1) = a.entry (id + 1) := by
    rw [entry_addBlock block hsize, if_neg (by omega), if_neg (by omega), if_neg (by omega)]
  exact {
    inside := by
      rw [size_addBlock]
      omega
    element := by
      rw [content, hself]
      exact h.element
    children := by rw [hself, h.children]
    text := by
      rw [content, htext]
      exact h.text }

theorem isBlock_addBlock (hsize : 0 < a.size) : (a.addBlock block).IsBlock a.size block := by
  have hself := entry_addBlock block hsize a.size
  have htext := entry_addBlock block hsize (a.size + 1)
  rw [if_neg (by omega), if_pos rfl] at hself
  rw [if_pos rfl] at htext
  exact {
    inside := by
      rw [size_addBlock]
      exact ⟨hsize, Nat.lt_succ_self _⟩
    element := by rw [content, hself]
    children := by rw [hself]
    text := by rw [content, htext] }

theorem Holds.addBlock (h : a.Holds blocks) (block : TextBlock) :
    (a.addBlock block).Holds (blocks ++ [block]) := by
  have hsize := h.size
  have htop := entry_addBlock block hsize 0
  rw [if_neg (Nat.succ_ne_zero _).symm, if_neg (Nat.ne_of_lt hsize), if_pos rfl] at htop
  exact {
    size := by
      rw [size_addBlock]
      exact Nat.succ_pos _
    top := by
      rw [content, htop]
      exact h.top
    contents := by
      rw [htop]
      exact h.contents
    children := by
      rw [htop, List.reverse_cons]
      exact List.rel_append (h.children.imp fun _ _ hother => hother.addBlock hsize)
        (.cons (isBlock_addBlock hsize) .nil) }

theorem flatten_mapM_cons {α β : Type} (f : α → Option (List β)) (x : α) (xs : List α) :
    ((x :: xs).mapM f).map List.flatten =
      (([x].mapM f).map List.flatten).bind fun first =>
        ((xs.mapM f).map List.flatten).map fun rest => first ++ rest := by
  cases hfirst : f x with
  | none => simp [hfirst]
  | some ys => cases hrest : xs.mapM f <;> simp [hfirst, hrest]

theorem nodes?_cons (levels : Nat) (id : NodeId) (ids : List NodeId) :
    a.nodes? (levels + 1) (id :: ids) =
      (a.nodes? (levels + 1) [id]).bind fun tree =>
        (a.nodes? (levels + 1) ids).map fun trees => tree ++ trees := by
  simp only [nodes?, bind_pure_comp, Option.map_eq_map]
  exact flatten_mapM_cons _ id ids

theorem IsBlock.nodes? {id : Nat} (h : a.IsBlock id block) (hfilled : block.content ≠ "")
    (levels : Nat) : a.nodes? (levels + 2) [id] = some [block.node] := by
  have hinner : a.nodes? (levels + 1) [id + 1] = some [.text block.content] := by
    simp [Arena.nodes?, h.text, hfilled]
  rw [Arena.nodes?]
  simp [h.element, h.children, hinner, TextBlock.node]

theorem nodes?_of_isBlock {ids : List NodeId} (h : List.Forall₂ a.IsBlock ids blocks)
    (hfilled : ∀ block ∈ blocks, block.content ≠ "") (levels : Nat) :
    a.nodes? (levels + 2) ids = some (blocks.map TextBlock.node) := by
  induction h with
  | nil => simp [Arena.nodes?]
  | cons hfirst _ ih =>
      rw [nodes?_cons, hfirst.nodes? (hfilled _ (by simp)),
        ih fun other hother => hfilled other (List.mem_cons_of_mem _ hother)]
      rfl

end Arena

/-! ## The tokens of a block -/

namespace Builder

variable {b : Builder} {blocks : List TextBlock} {block : TextBlock}

/-- The construction behind these blocks, where no other element is open. -/
structure Holds (b : Builder) (blocks : List TextBlock) : Prop where
  arena : b.arena.Holds blocks
  stack : b.stack = [0]
  formatting : b.formatting = []
  mode : b.mode = .body
  textMode : b.textMode = .data
  fostering : b.fostering = false
  dropsNewline : b.dropsNewline = false

theorem holds_start : start.Holds [] where
  arena := ⟨by decide, rfl, rfl, .nil⟩
  stack := rfl
  formatting := rfl
  mode := rfl
  textMode := rfl
  fostering := rfl
  dropsNewline := rfl

theorem Holds.current (h : b.Holds blocks) : b.current = 0 := by
  rw [Builder.current, h.stack]
  rfl

theorem Holds.name_zero (h : b.Holds blocks) : b.name 0 = ⟨.html, "html"⟩ := by
  rw [Builder.name, Arena.name, h.arena.top]

def openBlock (b : Builder) (block : TextBlock) : Builder :=
  { b with
    arena := b.arena.openBlock block
    stack := [b.arena.size, 0]
    dropsNewline := Html.dropsNewline block.tag }

def fillBlock (b : Builder) (block : TextBlock) : Builder :=
  { b with arena := b.arena.addBlock block, stack := [b.arena.size, 0] }

def addBlock (b : Builder) (block : TextBlock) : Builder :=
  { b with arena := b.arena.addBlock block }

theorem Holds.closeParagraph (h : b.Holds blocks) : b.closeParagraph = b := by
  have hscope : b.inScopeOf ElementName.boundsButtonScope "p" = false := by
    rw [inScopeOf, h.stack, findInScope, h.name_zero]
    rfl
  rw [Builder.closeParagraph, if_neg (by simp [hscope])]

/-- Nothing is open that the start tag of a block would close. -/
theorem Holds.next_opening (h : b.Holds blocks) (hblock : block.Readable) :
    b.next (openingToken block.tag block.attributes) = b.openBlock block := by
  have hgroup : ∀ name ∈ blockTags, (name == "image") = false ∧ name ≠ "template" ∧
      ((BodyStart.ofTag name = .block ∨ BodyStart.ofTag name = .heading) ∧
          Html.dropsNewline name = false ∨
        BodyStart.ofTag name = .preformatted ∧ Html.dropsNewline name = true) := by
    decide
  obtain ⟨himage, htemplate, hkinds⟩ := hgroup block.tag hblock.tag
  have hname : b.currentName = ⟨.html, "html"⟩ := by rw [currentName, h.current, h.name_zero]
  have hheading : b.currentName.isOneOf ElementName.headings = false := by
    rw [hname]
    decide
  have hkept : { b with dropsNewline := false } = b := by rw [← h.dropsNewline]
  have hcontents : (b.arena.entry b.current).contents = none := by
    rw [h.current]
    exact h.arena.contents
  have hinsert : b.insert ⟨block.tag, block.attributes, false⟩ =
      { b with arena := b.arena.openBlock block, stack := [b.arena.size, 0] } := by
    rw [insert_eq_append h.fostering hcontents htemplate, h.current, h.stack, Arena.openBlock]
  rw [hblock.openingToken_eq]
  show Builder.take { b with dropsNewline := false } _ = _
  rw [hkept, take_of_body h.mode (by rw [hname]), inBody, startInBody]
  simp only [himage, Bool.false_eq_true, if_false, openBlock]
  obtain ⟨hkind | hkind, hdrops⟩ | ⟨hkind, hdrops⟩ := hkinds
  · simp only [hkind, h.closeParagraph, hinsert, hdrops, h.dropsNewline]
  · simp only [hkind, h.closeParagraph, hheading, Bool.false_eq_true, if_false, hinsert, hdrops,
      h.dropsNewline]
  · simp only [hkind, h.closeParagraph, hinsert, hdrops, dropNewline]

/-- In the element of a block, text without a newline to drop is its content. -/
theorem Holds.take_text (h : b.Holds blocks) (block : TextBlock) :
    Builder.take { b.openBlock block with dropsNewline := false } (.text block.content false) =
      b.fillBlock block := by
  let opened : Builder := { b.openBlock block with dropsNewline := false }
  have hentry : opened.arena.entry opened.current =
      ⟨.element ⟨.html, block.tag⟩ block.attributes, some 0, [], none⟩ := by
    show (b.arena.openBlock block).entry b.arena.size = _
    rw [Arena.entry_openBlock h.arena.size, if_pos rfl]
  have hhtml : opened.currentName.vocabulary = .html := by
    rw [currentName, Builder.name, Arena.name, Arena.content, hentry]
  show opened.take _ = _
  rw [take_of_body (b := opened) h.mode hhtml, inBody, textInBody,
    reconstruct_of_nil (b := opened) h.formatting,
    addText_eq_append (b := opened) h.fostering (by rw [hentry]) (by rw [hentry])]
  rw [fillBlock, Arena.addBlock, h.dropsNewline]
  rfl

/-- The text of a block loses the newline that it is written with, and none of its own. -/
theorem Holds.next_text (h : b.Holds blocks) (hblock : block.Readable) :
    (b.openBlock block).next (.text (String.ofList block.inner) false) = b.fillBlock block := by
  have hdrops : (b.openBlock block).dropsNewline = Html.dropsNewline block.tag := rfl
  rw [next, takeText]
  simp only [String.toList_ofList, hdrops, Bool.not_false, Bool.and_true]
  unfold TextBlock.inner
  split
  next hguard =>
    have hfilled : block.content.toList ≠ [] := by simpa using hblock.filled
    obtain ⟨hpre, -⟩ := Bool.and_eq_true_iff.1 hguard
    simp [hpre, hfilled, h.take_text]
  next hguard =>
    simp [hguard, hblock.filled, h.take_text]

theorem implyEnds_of_isOneOf {id : NodeId} {rest : List NodeId} (hstack : b.stack = id :: rest)
    {tags : List String} (hname : (b.name id).isOneOf tags = false) : b.implyEnds tags = b := by
  have hkept : b.stack.dropWhile (fun id => (b.name id).isOneOf tags) = b.stack := by
    rw [hstack, List.dropWhile_cons_of_neg (by simp [hname])]
  rw [implyEnds, hkept]

theorem popThrough_of_pos {id : NodeId} {rest : List NodeId} (hstack : b.stack = id :: rest)
    {p : ElementName → Bool} (hp : p (b.name id) = true) :
    b.popThrough p = { b with stack := rest } := by
  have hkept : b.stack.dropWhile (fun id => !p (b.name id)) = b.stack := by
    rw [hstack, List.dropWhile_cons_of_neg (by simp [hp])]
  rw [popThrough, popTo, hkept, pop, hstack]
  rfl

theorem findInScope_of_pos (bounds : ElementName → Bool) {p : NodeId → Bool} {id : NodeId}
    {rest : List NodeId} (hp : p id = true) : b.findInScope bounds p (id :: rest) = true := by
  rw [findInScope, hp, Bool.true_or]

/-- The end tag of a block closes it and nothing else, as it is the innermost open element. -/
theorem endInBody_of_blockTag {id : NodeId} {rest : List NodeId} {tag : String}
    (hstack : b.stack = id :: rest) (hname : b.name id = ⟨.html, tag⟩) (htag : tag ∈ blockTags) :
    b.endInBody tag = { b with stack := rest } := by
  have hgroup : ∀ tag ∈ blockTags,
      BodyEnd.ofTag tag = .paragraph ∧
          (⟨.html, tag⟩ : ElementName).isOneOf (ElementName.impliedEnd.erase tag) = false ∨
        (⟨.html, tag⟩ : ElementName).isOneOf ElementName.impliedEnd = false ∧
          (BodyEnd.ofTag tag = .block ∨ BodyEnd.ofTag tag = .heading ∧
            (⟨.html, tag⟩ : ElementName).isOneOf ElementName.headings = true) := by
    decide
  have hself : (b.name id).is tag = true := by simp [hname, ElementName.is]
  have hscope (bounds : ElementName → Bool) : b.inScopeOf bounds tag = true := by
    rw [inScopeOf, hstack, findInScope_of_pos bounds hself]
  have hclose : b.close tag = { b with stack := rest } := popThrough_of_pos hstack hself
  rcases hgroup tag htag with ⟨hkind, hends⟩ | ⟨hends, hkind | ⟨hkind, hheading⟩⟩
  · simp only [endInBody, hkind, hscope, if_true]
    rw [implyEndsExcept, implyEnds_of_isOneOf hstack (by rw [hname, hends]), hclose]
  · simp only [endInBody, hkind, inScope, hscope, if_true]
    rw [implyAllEnds, implyEnds_of_isOneOf hstack (by rw [hname, hends]), hclose]
  · have hopen : b.findInScope ElementName.boundsScope
        (fun id => (b.name id).isOneOf ElementName.headings) b.stack = true := by
      rw [hstack, findInScope_of_pos]
      rw [hname, hheading]
    simp only [endInBody, hkind, hopen, if_true]
    rw [implyAllEnds, implyEnds_of_isOneOf hstack (by rw [hname, hends]),
      popThrough_of_pos hstack (by rw [hname, hheading])]

theorem Holds.next_ending (h : b.Holds blocks) (hblock : block.Readable) :
    (b.fillBlock block).next (.endTag block.tag) = b.addBlock block := by
  have hname : (b.fillBlock block).name b.arena.size = ⟨.html, block.tag⟩ := by
    show (b.arena.addBlock block).name b.arena.size = _
    rw [Arena.name, (Arena.isBlock_addBlock h.arena.size).element]
  have hkept : { b.fillBlock block with dropsNewline := false } = b.fillBlock block := by
    rw [fillBlock, ← h.dropsNewline]
  show Builder.take { b.fillBlock block with dropsNewline := false } _ = _
  rw [hkept, take_of_body (b := b.fillBlock block) h.mode
    (congrArg ElementName.vocabulary hname), inBody, endInBody_of_blockTag rfl hname hblock.tag]
  show { b with arena := b.arena.addBlock block, stack := [0] } = _
  rw [← h.stack]
  rfl

theorem Holds.addBlock (h : b.Holds blocks) (block : TextBlock) :
    (b.addBlock block).Holds (blocks ++ [block]) where
  arena := h.arena.addBlock block
  stack := h.stack
  formatting := h.formatting
  mode := h.mode
  textMode := h.textMode
  fostering := h.fostering
  dropsNewline := h.dropsNewline

/-- A block is read in three tokens: its start tag, its text and its end tag. -/
theorem Holds.run_block (h : b.Holds blocks) (hblock : block.Readable) (spare : Nat)
    (cs : List Char) :
    run (spare + 3) b (block.node.pieces.flatMap Piece.chars ++ cs) =
      run spare (b.addBlock block) cs := by
  obtain ⟨c, text, hinner⟩ := hblock.exists_inner
  have hplain : ∀ d ∈ c :: text, d ≠ '\x00' := by
    rintro d hd rfl
    exact hblock.mem_inner.2 (hinner ▸ hd)
  have hopening := next?_opening hblock.plain b.allowsSections
    (block.inner.flatMap textChar ++ ((Piece.ending block.tag).chars ++ cs))
  have hbracket : ∀ d ∈ ((Piece.ending block.tag).chars ++ cs).head?, d = '<' ∨ d = '\x00' :=
    fun d hd => .inl (Option.some.inj hd).symm
  have htext := next?_text hplain hbracket (b.openBlock block).allowsSections
  have hending := next?_ending hblock.plain.1 (b.fillBlock block).allowsSections cs
  have hchars : block.node.pieces.flatMap Piece.chars ++ cs =
      (Piece.opening block.tag block.attributes).chars ++
        (block.inner.flatMap textChar ++ ((Piece.ending block.tag).chars ++ cs)) := by
    rw [hblock.pieces]
    simp [List.flatMap_map, Piece.chars]
  rw [← hinner] at htext
  rw [hchars, run_of_next? h.textMode hopening, h.next_opening hblock,
    run_of_next? (b := b.openBlock block) h.textMode htext, h.next_text hblock,
    run_of_next? (b := b.fillBlock block) h.textMode hending, h.next_ending hblock]

/-- So are blocks in sequence; `spare` tokens are left for what follows them. -/
theorem Holds.run_blocks {more : List TextBlock} (h : b.Holds blocks)
    (hmore : ∀ block ∈ more, block.Readable) (spare : Nat) (cs : List Char) :
    run (spare + 3 * more.length) b
        ((pieces (more.map TextBlock.node)).flatMap Piece.chars ++ cs) =
      run spare (more.foldl Builder.addBlock b) cs ∧
        (more.foldl Builder.addBlock b).Holds (blocks ++ more) := by
  -- Each block leaves nothing open, so the next one is read from a state like the one before it.
  induction more generalizing b blocks with
  | nil => exact ⟨rfl, by simpa using h⟩
  | cons block more ih =>
      obtain ⟨hrun, hholds⟩ := ih (h.addBlock block)
        fun other hother => hmore other (List.mem_cons_of_mem _ hother)
      have hcount : spare + 3 * (block :: more).length = spare + 3 * more.length + 3 := by
        rw [List.length_cons]
        omega
      rw [List.map_cons, pieces, List.flatMap_append, List.append_assoc, hcount,
        h.run_block (hmore block (by simp)), hrun]
      exact ⟨rfl, by simpa using hholds⟩

end Builder

/-! ## Reading blocks -/

/-- **Blocks of text are read as they were written**, in sequence. -/
theorem read?_write_textBlocks {blocks : List TextBlock} (h : ∀ block ∈ blocks, block.Readable) :
    read? (write (blocks.map TextBlock.node)) = some (blocks.map TextBlock.node) := by
  have hunbroken : ∀ p ∈ pieces (blocks.map TextBlock.node), p.Unbroken := by
    intro p hp
    rw [pieces_map_node, List.mem_flatMap] at hp
    obtain ⟨block, hblock, hp⟩ := hp
    exact (h block hblock).unbroken hp
  obtain ⟨spare, hspare⟩ := Nat.exists_eq_add_of_le (length_write_blocks h)
  obtain ⟨hrun, hholds⟩ := Builder.holds_start.run_blocks h (spare + 1) []
  have hcount : 3 * blocks.length + spare + 1 = spare + 1 + 3 * blocks.length := by omega
  rw [List.append_nil] at hrun
  rw [read?, construct_write hunbroken, readPieces_blocks h, hspare, hcount, hrun,
    Builder.run_nil _ (by simp [hholds.mode])]
  exact Arena.nodes?_of_isBlock hholds.arena.children (fun block hblock => (h block hblock).filled) _

/-- **Text and attribute values survive being written and read**, in a block of text. -/
theorem read?_write_textBlock {tag : String} {attributes : List Attribute} {content : String}
    (htag : tag ∈ blockTags) (hnames : ∀ a ∈ attributes, isPlainName a.name = true)
    (hdistinct : (names attributes).Nodup)
    (hvalues : ∀ a ∈ attributes, '\r' ∉ a.value.toList ∧ '\x00' ∉ a.value.toList)
    (hfilled : content ≠ "") (hcontent : '\r' ∉ content.toList ∧ '\x00' ∉ content.toList) :
    read? (write [.element tag attributes [.text content]]) =
      some [.element tag attributes [.text content]] := by
  have hplain : ∀ tag ∈ blockTags, isPlainName tag = true := by decide
  have hblock : TextBlock.Readable ⟨tag, attributes, content⟩ :=
    ⟨htag, ⟨hplain tag htag, hnames, hdistinct⟩, hvalues, hfilled, hcontent⟩
  have hblocks : ∀ block ∈ [(⟨tag, attributes, content⟩ : TextBlock)], block.Readable :=
    List.forall_mem_singleton.2 hblock
  have hread := read?_write_textBlocks hblocks
  exact hread

/-- Text that starts with newlines and looks like markup and references, and values that look like the
end of theirs. -/
theorem read?_write_textBlock_pre :
    let attributes : List Attribute := [⟨"title", "a\">&quot;\n"⟩, ⟨"data-x1", ""⟩]
    let content := "\n\n</pre><!-- &amp;lt; &#13;"
    "pre" ∈ blockTags ∧ content ≠ "" ∧
      read? (write [.element "pre" attributes [.text content]]) =
        some [.element "pre" attributes [.text content]] := by
  intro attributes content
  exact ⟨by decide, by decide, read?_write_textBlock (by decide) (by decide) (by decide) (by decide)
    (by decide) (by decide)⟩

end SafeReadme.Html
