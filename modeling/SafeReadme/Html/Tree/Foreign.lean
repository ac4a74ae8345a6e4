import SafeReadme.Html.Tree.Select

/-!
# Rules for embedded vocabularies

Inside SVG and MathML every element belongs to the vocabulary of its parent, until a place that
holds HTML, or an HTML tag that ends the embedded part.
-/

namespace SafeReadme.Html

def breakoutTags : List String :=
  ["b", "big", "blockquote", "body", "br", "center", "code", "dd", "div", "dl", "dt", "em",
    "embed", "h1", "h2", "h3", "h4", "h5", "h6", "head", "hr", "i", "img", "li", "listing",
    "menu", "meta", "nobr", "ol", "p", "pre", "ruby", "s", "small", "span", "strong", "strike",
    "sub", "sup", "table", "tt", "u", "ul", "var"]

def Tag.breaksOut (tag : Tag) : Bool :=
  breakoutTags.contains tag.name ||
    (tag.name == "font" &&
      tag.attributes.any (fun a => ["color", "face", "size"].contains a.name))

namespace Builder

def annotationHoldsHtml (b : Builder) (id : NodeId) : Bool :=
  match b.arena.content id with
  | .element _ attributes =>
      match attributes.find? (fun a => a.name == "encoding") with
      | some a => ["text/html", "application/xhtml+xml"].contains a.value.toLower
      | none => false
  | _ => false

def isForeign (b : Builder) (token : Token) : Bool :=
  let name := b.currentName
  if name.vocabulary = .html then false
  else
    match token with
    | .startTag tag =>
        if name.holdsText then ["mglyph", "malignmark"].contains tag.name
        else if name.holdsHtml then false
        else if name = ⟨.math, "annotation-xml"⟩ then
          tag.name != "svg" && !b.annotationHoldsHtml b.current
        else true
    | .text _ _ | .null =>
        if name.holdsText || name.holdsHtml then false
        else if name = ⟨.math, "annotation-xml"⟩ then !b.annotationHoldsHtml b.current
        else true
    | _ => true

def leaveForeign (b : Builder) : Builder :=
  b.popTo (fun name => name.vocabulary == .html || name.holdsText || name.holdsHtml)

inductive ForeignEnd where
  /-- It closes `id` and all inside it. -/
  | closes (id : NodeId)
  | html
  | nothing

def foreignEnd (b : Builder) (tag : String) : List NodeId → ForeignEnd
  | [] => .nothing
  | id :: rest =>
      let name := b.name id
      if rest.isEmpty then .nothing
      else if name.vocabulary == .html then .html
      else if name.tag == tag then .closes id
      else b.foreignEnd tag rest

def startInForeign (b : Builder) (tag : Tag) : Builder :=
  b.insertForeign b.currentName.vocabulary tag

end Builder

end SafeReadme.Html
