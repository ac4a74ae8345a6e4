import SafeReadme.Html.Tree.Arena

/-!
# The state of a construction

A `Builder` holds the tree so far, the elements that are open, and what the next token has to know.
Here are the steps that the rules for the tokens are made of.
-/

namespace SafeReadme.Html

inductive Mode where
  | body
  | text
  | table
  | tableText
  | caption
  | columnGroup
  | tableBody
  | row
  | cell
  | select
  | selectInTable
  | template
  deriving DecidableEq, Repr

/-- A formatting element that later content is put into again, or a border between such. -/
inductive Formatting where
  | marker
  | element (id : NodeId) (tag : Tag)
  deriving Repr

inductive Place where
  | inside (parent : NodeId)
  | before (parent sibling : NodeId)
  deriving DecidableEq, Repr

structure Builder where
  arena : Arena
  /-- The open elements, the innermost first; the last is the top of the tree. -/
  stack : List NodeId
  /-- The formatting elements, the latest first. -/
  formatting : List Formatting
  mode : Mode
  /-- The mode to return to from text. -/
  heldMode : Mode
  /-- A mode for each open template, the innermost first. -/
  templateModes : List Mode
  form : Option NodeId
  /-- Whether content of table parts goes in front of the table. -/
  fostering : Bool
  /-- Text between table parts that has no place yet. -/
  pendingText : String
  dropsNewline : Bool
  textMode : TextMode

namespace Builder

def start : Builder where
  arena := ⟨#[⟨.root, none, [], none⟩]⟩
  stack := [0]
  formatting := []
  mode := .body
  heldMode := .body
  templateModes := []
  form := none
  fostering := false
  pendingText := ""
  dropsNewline := false
  textMode := .data

/-! ## Open elements -/

def current (b : Builder) : NodeId :=
  b.stack.headD 0

def name (b : Builder) (id : NodeId) : ElementName :=
  b.arena.name id

def currentName (b : Builder) : ElementName :=
  b.name b.current

def isAt (b : Builder) (tag : String) : Bool :=
  b.currentName.is tag

def push (b : Builder) (id : NodeId) : Builder :=
  { b with stack := id :: b.stack }

def pop (b : Builder) : Builder :=
  { b with stack := b.stack.drop 1 }

def popTo (b : Builder) (p : ElementName → Bool) : Builder :=
  { b with stack := b.stack.dropWhile (fun id => !p (b.name id)) }

def popThrough (b : Builder) (p : ElementName → Bool) : Builder :=
  (b.popTo p).pop

def close (b : Builder) (tag : String) : Builder :=
  b.popThrough (·.is tag)

def unstack (b : Builder) (id : NodeId) : Builder :=
  { b with stack := b.stack.filter (· != id) }

def implyEnds (b : Builder) (tags : List String) : Builder :=
  { b with stack := b.stack.dropWhile (fun id => (b.name id).isOneOf tags) }

def implyEndsExcept (b : Builder) (tag : String) : Builder :=
  b.implyEnds (ElementName.impliedEnd.erase tag)

def implyAllEnds (b : Builder) : Builder :=
  b.implyEnds ElementName.impliedEnd

/-- Whether an open element with `p` is found before one that bounds the search. -/
def findInScope (b : Builder) (bounds : ElementName → Bool) (p : NodeId → Bool) :
    List NodeId → Bool
  | [] => false
  | id :: rest => p id || (!bounds (b.name id) && b.findInScope bounds p rest)

def inScopeOf (b : Builder) (bounds : ElementName → Bool) (tag : String) : Bool :=
  b.findInScope bounds (fun id => (b.name id).is tag) b.stack

def inScope (b : Builder) (tag : String) : Bool :=
  b.inScopeOf ElementName.boundsScope tag

def inTableScope (b : Builder) (tag : String) : Bool :=
  b.inScopeOf ElementName.boundsTableScope tag

def inTemplate (b : Builder) : Bool :=
  b.stack.any (fun id => (b.name id).is "template")

/-! ## Insertion -/

/-- The place of content that belongs to an open table, if the search starts at these elements. -/
def fosterPlace (b : Builder) : List NodeId → Place
  | [] => .inside 0
  | id :: rest =>
      if (b.name id).is "template" then .inside ((b.arena.entry id).contents.getD id)
      else if (b.name id).is "table" then
        match (b.arena.entry id).parent with
        | some parent => .before parent id
        | none => .inside (rest.headD 0)
      else b.fosterPlace rest

def placeIn (b : Builder) (target : NodeId) : Place :=
  if b.fostering && (b.name target).isOneOf ElementName.tableParts then b.fosterPlace b.stack
  else .inside ((b.arena.entry target).contents.getD target)

def putIn (b : Builder) (target id : NodeId) : Builder :=
  match b.placeIn target with
  | .inside parent => { b with arena := b.arena.append parent id }
  | .before parent sibling => { b with arena := b.arena.insertBefore parent sibling id }

def addText (b : Builder) (content : String) : Builder :=
  match b.placeIn b.current with
  | .inside parent => { b with arena := b.arena.appendText parent content }
  | .before parent sibling =>
      { b with arena := b.arena.insertTextBefore parent sibling content }

def addComment (b : Builder) : Builder :=
  let id := b.arena.size
  { b with arena := b.arena.create .comment }.putIn b.current id

def insertClosed (b : Builder) (name : ElementName) (attributes : List Attribute) : Builder :=
  let id := b.arena.size
  { b with arena := b.arena.createElement name attributes }.putIn b.current id

def insertNamed (b : Builder) (name : ElementName) (attributes : List Attribute) : Builder :=
  (b.insertClosed name attributes).push b.arena.size

def insert (b : Builder) (tag : Tag) : Builder :=
  b.insertNamed ⟨.html, tag.name⟩ tag.attributes

def insertVoid (b : Builder) (tag : Tag) : Builder :=
  b.insertClosed ⟨.html, tag.name⟩ tag.attributes

def insertImplied (b : Builder) (tag : String) : Builder :=
  b.insertNamed ⟨.html, tag⟩ []

def insertText (b : Builder) (tag : Tag) (textMode : TextMode) : Builder :=
  let b := b.insert tag
  { b with heldMode := b.mode, mode := .text, textMode }

def dropNewline (b : Builder) : Builder :=
  { b with dropsNewline := true }

def enter (b : Builder) (mode : Mode) : Builder :=
  { b with mode }

def modeOf (b : Builder) : List NodeId → Mode
  | [] => .body
  | id :: rest =>
      let name := b.name id
      if rest.isEmpty then .body
      else if name.is "select" then
        match rest.find? (fun id => (b.name id).isOneOf ["template", "table"]) with
        | some id => if (b.name id).is "table" then .selectInTable else .select
        | none => .select
      else if name.isOneOf ["td", "th"] then .cell
      else if name.is "tr" then .row
      else if name.isOneOf ["tbody", "thead", "tfoot"] then .tableBody
      else if name.is "caption" then .caption
      else if name.is "colgroup" then .columnGroup
      else if name.is "table" then .table
      else if name.is "template" then b.templateModes.headD .body
      else b.modeOf rest

def resetMode (b : Builder) : Builder :=
  b.enter (b.modeOf b.stack)

def closeParagraph (b : Builder) : Builder :=
  if b.inScopeOf ElementName.boundsButtonScope "p" then (b.implyEndsExcept "p").close "p" else b

end Builder

end SafeReadme.Html
