import SafeReadme.Html.Tree.Builder

/-!
# Formatting elements

Formatting may be closed in another order than it was opened. `reconstruct` opens again what an
enclosing element closed, and `closeFormatting` splits the tree where the tags overlap.
-/

namespace SafeReadme.Html

namespace Formatting

def isOf (id : NodeId) : Formatting → Bool
  | .marker => false
  | .element other _ => other = id

def isMarker : Formatting → Bool
  | .marker => true
  | .element _ _ => false

/-- Whether the entry was made by an equal tag, in whatever order the attributes are. -/
def sameTag (tag : Tag) : Formatting → Bool
  | .marker => false
  | .element _ other =>
      other.name == tag.name && other.attributes.length == tag.attributes.length &&
        other.attributes.all (fun a => tag.attributes.contains a)

def recent (entries : List Formatting) : List Formatting :=
  entries.takeWhile (fun e => !e.isMarker)

def remove (id : NodeId) (entries : List Formatting) : List Formatting :=
  entries.filter (fun e => !e.isOf id)

def tagOf? (id : NodeId) : List Formatting → Option Tag
  | [] => none
  | .marker :: rest => tagOf? id rest
  | .element other tag :: rest => if other = id then some tag else tagOf? id rest

def replace (id : NodeId) (entry : Formatting) (entries : List Formatting) : List Formatting :=
  entries.map (fun e => if e.isOf id then entry else e)

def insertLater (id : NodeId) (entry : Formatting) : List Formatting → List Formatting
  | [] => []
  | e :: rest => if e.isOf id then entry :: e :: rest else e :: insertLater id entry rest

def removeEarliest (p : Formatting → Bool) (entries : List Formatting) : List Formatting :=
  (entries.reverse.eraseP p).reverse

end Formatting

namespace Builder

def clearFormatting (b : Builder) : Builder :=
  { b with formatting := (b.formatting.dropWhile (fun e => !e.isMarker)).drop 1 }

def pushMarker (b : Builder) : Builder :=
  { b with formatting := .marker :: b.formatting }

def isSettled (b : Builder) : Formatting → Bool
  | .marker => true
  | .element id _ => b.stack.contains id

def reopen (b : Builder) : List Formatting → Builder
  | [] => b
  | .marker :: rest => b.reopen rest
  | .element _ tag :: rest =>
      let id := b.arena.size
      let b := b.insert tag
      { b with formatting := .element id tag :: b.formatting }.reopen rest

def reconstruct (b : Builder) : Builder :=
  let stale := b.formatting.takeWhile (fun e => !b.isSettled e)
  if stale.isEmpty then b
  else { b with formatting := b.formatting.drop stale.length }.reopen stale.reverse

/-- Adds a formatting element. Of more than three with equal tags the earliest is forgotten. -/
def insertFormatting (b : Builder) (tag : Tag) : Builder :=
  let recent := Formatting.recent b.formatting
  let formatting :=
    if 3 ≤ recent.countP (·.sameTag tag) then
      Formatting.removeEarliest (·.sameTag tag) recent ++ b.formatting.drop recent.length
    else b.formatting
  let id := b.arena.size
  { b.insert tag with formatting := .element id tag :: formatting }

/-- Closes elements up to and with the first of a tag; a special element before it keeps all. -/
def closeOther (b : Builder) (tag : String) : Builder :=
  match b.stack.find? (fun id => (b.name id).is tag || (b.name id).isSpecial) with
  | none => b
  | some id =>
      if !(b.name id).is tag then b
      else
        let b := b.implyEndsExcept tag
        { b with stack := (b.stack.dropWhile (· != id)).drop 1 }

/-! ## Overlapping tags -/

structure Climb where
  builder : Builder
  met : Nat
  /-- The node that the next copy takes in. -/
  carried : NodeId
  /-- The entry that the new one comes next to; at first none. -/
  bookmark : Option NodeId
  /-- What stays open of the elements that were met, the outermost first. -/
  kept : List NodeId

/-- Goes up by one element: a copy of it takes in what is carried. From the fourth on, and where it
is no formatting any more, the element is passed over. -/
def Climb.step (c : Climb) (id : NodeId) : Climb :=
  let b := c.builder
  let met := c.met + 1
  if 3 < met then
    { c with builder := { b with formatting := Formatting.remove id b.formatting }, met }
  else
    match Formatting.tagOf? id b.formatting with
    | none => { c with met }
    | some tag =>
        let copy := b.arena.size
        let arena := b.arena.createElement ⟨.html, tag.name⟩ tag.attributes
        { builder :=
            { b with
              arena := (arena.detach c.carried).append copy c.carried
              formatting := Formatting.replace id (.element copy tag) b.formatting }
          met
          carried := copy
          bookmark := c.bookmark.or (some copy)
          kept := copy :: c.kept }

/-- Splits the formatting element `id` of `tag` around the block that stands on the stack between
`above` and `between`. -/
def splitAround (b : Builder) (id : NodeId) (tag : Tag) (above : List NodeId) (block : NodeId)
    (between below : List NodeId) : Builder :=
  let climb := between.foldl Climb.step ⟨b, 0, block, none, []⟩
  let kept := climb.kept.reverse
  let b := climb.builder
  let stack := above ++ block :: kept ++ id :: below
  let b := { b with arena := b.arena.detach climb.carried, stack }.putIn (below.headD 0) climb.carried
  let copy := b.arena.size
  let arena := b.arena.createElement ⟨.html, tag.name⟩ tag.attributes
  let arena := (arena.moveChildren block copy).append block copy
  let entry := Formatting.element copy tag
  let formatting :=
    match climb.bookmark with
    | none => Formatting.replace id entry b.formatting
    | some mark => Formatting.remove id (Formatting.insertLater mark entry b.formatting)
  { b with arena, formatting, stack := above ++ copy :: block :: kept ++ below }

def splitAtLastSpecial? (b : Builder) (ids : List NodeId) :
    Option (List NodeId × NodeId × List NodeId) :=
  let between := (ids.reverse.takeWhile (fun id => !(b.name id).isSpecial)).reverse
  match ids.take (ids.length - between.length) with
  | [] => none
  | id :: rest =>
      let upTo := id :: rest
      some (upTo.dropLast, upTo.getLast (by simp [upTo]), between)

/-- Closes the latest formatting element of a tag, again and again while blocks overlap it. -/
def closeOverlapping (tag : String) : Nat → Builder → Builder
  | 0, b => b
  | rounds + 1, b =>
      let named := (Formatting.recent b.formatting).find? fun
        | .marker => false
        | .element _ other => other.name == tag
      match named with
      | none | some .marker => b.closeOther tag
      | some (.element id other) =>
          if !b.stack.contains id then
            { b with formatting := Formatting.remove id b.formatting }
          else if !b.findInScope ElementName.boundsScope (· == id) b.stack then b
          else
            let inner := b.stack.takeWhile (· != id)
            let below := (b.stack.dropWhile (· != id)).drop 1
            match b.splitAtLastSpecial? inner with
            | none =>
                { b with stack := below, formatting := Formatting.remove id b.formatting }
            | some (above, block, between) =>
                closeOverlapping tag rounds (b.splitAround id other above block between below)

def closeFormatting (b : Builder) (tag : String) : Builder :=
  if b.isAt tag && (Formatting.tagOf? b.current b.formatting).isNone then b.pop
  else closeOverlapping tag 8 b

def closeLink (b : Builder) : Builder :=
  let open? := (Formatting.recent b.formatting).find? fun
    | .marker => false
    | .element id _ => (b.name id).is "a"
  match open? with
  | some (.element id _) =>
      let b := b.closeFormatting "a"
      { b with formatting := Formatting.remove id b.formatting }.unstack id
  | _ => b

end Builder

end SafeReadme.Html
