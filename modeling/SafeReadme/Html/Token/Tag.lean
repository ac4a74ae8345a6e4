import SafeReadme.Html.Reference.Read
import SafeReadme.Html.Token

/-!
# Reading tags

A tag is read character by character from its name to its closing bracket. Names are lower-cased,
values are decoded, and of two attributes with one name the first counts. A tag that the document
ends in is none.
-/

namespace SafeReadme.Html

inductive TagPart where
  | name
  | between
  | attrName
  | afterName
  | beforeValue
  | quoted (quote : Char)
  | unquoted
  | slash
  deriving DecidableEq, Repr

structure TagDraft where
  name : String
  /-- The attributes that are complete, the last one first. -/
  attributes : List Attribute
  attrName : String
  attrValue : String
  deriving Repr

inductive TagStep where
  /-- Go on in `part`, behind the next `skip` characters. -/
  | go (draft : TagDraft) (part : TagPart) (skip : Nat)
  | finish (tag : Tag)

namespace TagDraft

def empty : TagDraft :=
  ⟨"", [], "", ""⟩

def closeAttr (d : TagDraft) : TagDraft :=
  if d.attrName.isEmpty || d.attributes.any (fun a => a.name == d.attrName) then
    { d with attrName := "", attrValue := "" }
  else ⟨d.name, ⟨d.attrName, d.attrValue⟩ :: d.attributes, "", ""⟩

def pushName (d : TagDraft) (c : Char) : TagDraft :=
  { d with name := d.name.push (visible c.toLower) }

def pushAttr (d : TagDraft) (c : Char) : TagDraft :=
  { d with attrName := d.attrName.push (visible c.toLower) }

def pushValue (d : TagDraft) (c : Char) : TagDraft :=
  { d with attrValue := d.attrValue.push (visible c) }

def openAttr (d : TagDraft) (c : Char) : TagDraft :=
  d.closeAttr.pushAttr c

def finish (d : TagDraft) (selfClosing : Bool) : Tag :=
  ⟨d.name, d.closeAttr.attributes.reverse, selfClosing⟩

def between (d : TagDraft) (c : Char) : TagStep :=
  if isSpace c then .go d .between 0
  else if c = '/' then .go d .slash 0
  else if c = '>' then .finish (d.finish false)
  else .go (d.openAttr c) .attrName 0

def value (d : TagDraft) (part : TagPart) (c : Char) (cs : List Char) : TagStep :=
  if c = '&' then
    match Reference.read? true cs with
    | some read =>
        .go { d with attrValue := d.attrValue ++ String.ofList read.text } part read.length
    | none => .go (d.pushValue c) part 0
  else .go (d.pushValue c) part 0

def step (d : TagDraft) (part : TagPart) (c : Char) (cs : List Char) : TagStep :=
  match part with
  | .name =>
      if isSpace c then .go d .between 0
      else if c = '/' then .go d .slash 0
      else if c = '>' then .finish (d.finish false)
      else .go (d.pushName c) .name 0
  | .between => d.between c
  | .attrName =>
      if isSpace c then .go d .afterName 0
      else if c = '/' then .go d .slash 0
      else if c = '>' then .finish (d.finish false)
      else if c = '=' then .go d .beforeValue 0
      else .go (d.pushAttr c) .attrName 0
  | .afterName =>
      if isSpace c then .go d .afterName 0
      else if c = '=' then .go d .beforeValue 0
      else d.between c
  | .beforeValue =>
      if isSpace c then .go d .beforeValue 0
      else if c = '"' || c = '\x27' then .go d (.quoted c) 0
      else if c = '>' then .finish (d.finish false)
      else d.value .unquoted c cs
  | .quoted quote => if c = quote then .go d .between 0 else d.value part c cs
  | .unquoted =>
      if isSpace c then .go d .between 0
      else if c = '>' then .finish (d.finish false)
      else d.value part c cs
  | .slash => if c = '>' then .finish (d.finish true) else d.between c

end TagDraft

/-- Reads on in a tag; the second number counts the characters that are read already. -/
def readTag (d : TagDraft) (part : TagPart) : Nat → List Char → Option (Tag × List Char)
  | _, [] => none
  | skip + 1, _ :: cs => readTag d part skip cs
  | 0, c :: cs =>
      match d.step part c cs with
      | .go d part skip => readTag d part skip cs
      | .finish tag => some (tag, cs)

end SafeReadme.Html
