import SafeReadme.Html.Tree.Formatting

/-!
# Rules for the body

What a tag does depends on the group its name belongs to. The same rules hold in the cells and
captions of tables, and for content that is moved out of tables.
-/

namespace SafeReadme.Html

inductive BodyStart where
  | ignored
  | metadata
  | title
  | rawText
  | script
  | template
  | block
  | heading
  | preformatted
  | form
  | listItem
  | definition
  | plainText
  | button
  | link
  | formatting
  | noBreak
  | object
  | table
  | void
  | loneVoid
  | divider
  | textArea
  | example
  | select
  | option
  | rubyBase
  | rubyText
  | math
  | svg
  | other
  deriving DecidableEq, Repr

def BodyStart.ofTag (tag : String) : BodyStart :=
  if ["address", "article", "aside", "blockquote", "center", "details", "dialog", "dir", "div",
      "dl", "fieldset", "figcaption", "figure", "footer", "header", "hgroup", "main", "menu",
      "nav", "ol", "p", "section", "summary", "ul"].contains tag then .block
  else if ElementName.headings.contains tag then .heading
  else if tag == "a" then .link
  else if ["b", "big", "code", "em", "font", "i", "s", "small", "strike", "strong", "tt",
      "u"].contains tag then .formatting
  else if ["area", "br", "embed", "img", "input", "keygen", "wbr"].contains tag then .void
  else if tag == "li" then .listItem
  else if ["dd", "dt"].contains tag then .definition
  else if ["pre", "listing"].contains tag then .preformatted
  else if tag == "table" then .table
  else if tag == "hr" then .divider
  else if ["body", "caption", "col", "colgroup", "frame", "frameset", "head", "html", "tbody",
      "td", "tfoot", "th", "thead", "tr"].contains tag then .ignored
  else if ["base", "basefont", "bgsound", "link", "meta"].contains tag then .metadata
  else if tag == "title" then .title
  else if ["iframe", "noembed", "noframes", "noscript", "style"].contains tag then .rawText
  else if tag == "script" then .script
  else if tag == "template" then .template
  else if tag == "form" then .form
  else if tag == "plaintext" then .plainText
  else if tag == "button" then .button
  else if tag == "nobr" then .noBreak
  else if ["applet", "marquee", "object"].contains tag then .object
  else if ["param", "source", "track"].contains tag then .loneVoid
  else if tag == "textarea" then .textArea
  else if tag == "xmp" then .example
  else if tag == "select" then .select
  else if ["optgroup", "option"].contains tag then .option
  else if ["rb", "rtc"].contains tag then .rubyBase
  else if ["rp", "rt"].contains tag then .rubyText
  else if tag == "math" then .math
  else if tag == "svg" then .svg
  else .other

inductive BodyEnd where
  | ignored
  | template
  | block
  | form
  | paragraph
  | listItem
  | definition
  | heading
  | formatting
  | object
  | lineBreak
  | other
  deriving DecidableEq, Repr

def BodyEnd.ofTag (tag : String) : BodyEnd :=
  if tag == "p" then .paragraph
  else if ["address", "article", "aside", "blockquote", "button", "center", "details", "dialog",
      "dir", "div", "dl", "fieldset", "figcaption", "figure", "footer", "header", "hgroup",
      "listing", "main", "menu", "nav", "ol", "pre", "section", "summary",
      "ul"].contains tag then .block
  else if ["a", "b", "big", "code", "em", "font", "i", "nobr", "s", "small", "strike", "strong",
      "tt", "u"].contains tag then .formatting
  else if ElementName.headings.contains tag then .heading
  else if tag == "li" then .listItem
  else if ["dd", "dt"].contains tag then .definition
  else if tag == "br" then .lineBreak
  else if ["body", "html"].contains tag then .ignored
  else if tag == "template" then .template
  else if tag == "form" then .form
  else if ["applet", "marquee", "object"].contains tag then .object
  else .other

namespace Builder

def openTemplate (b : Builder) (tag : Tag) : Builder :=
  let b := ((b.insert tag).pushMarker).enter .template
  { b with templateModes := .template :: b.templateModes }

def closeTemplate (b : Builder) : Builder :=
  if !b.inTemplate then b
  else
    let b := ((b.implyEnds ElementName.impliedTemplateEnd).close "template").clearFormatting
    { b with templateModes := b.templateModes.drop 1 }.resetMode

/-- Closes an item that a new item of one of these tags follows. -/
def closeItem (b : Builder) (tags : List String) : Builder :=
  let met := b.stack.find? fun id =>
    let name := b.name id
    name.isOneOf tags || (name.isSpecial && !name.isOneOf ["address", "div", "p"])
  match met with
  | none => b
  | some id =>
      let name := b.name id
      if name.isOneOf tags then (b.implyEndsExcept name.tag).close name.tag else b

def insertForeign (b : Builder) (vocabulary : Vocabulary) (tag : Tag) : Builder :=
  let attributes := spellAttributes vocabulary tag.attributes
  if tag.selfClosing then b.insertClosed ⟨vocabulary, tag.name⟩ attributes
  else b.insertNamed ⟨vocabulary, tag.name⟩ attributes

def selectMode : Mode → Mode
  | .table | .caption | .tableBody | .row | .cell => .selectInTable
  | _ => .select

def startInBody (b : Builder) (tag : Tag) : Builder :=
  let tag := if tag.name == "image" then { tag with name := "img" } else tag
  match BodyStart.ofTag tag.name with
  | .ignored => b
  | .metadata => b.insertVoid tag
  | .title => b.insertText tag (.escapable tag.name)
  | .rawText => b.insertText tag (.raw tag.name)
  | .script => b.insertText tag .script
  | .template => b.openTemplate tag
  | .block => b.closeParagraph.insert tag
  | .heading =>
      let b := b.closeParagraph
      (if b.currentName.isOneOf ElementName.headings then b.pop else b).insert tag
  | .preformatted => (b.closeParagraph.insert tag).dropNewline
  | .form =>
      if b.form.isSome && !b.inTemplate then b
      else
        let b := b.closeParagraph
        let id := b.arena.size
        let b := b.insert tag
        if b.inTemplate then b else { b with form := some id }
  | .listItem => (b.closeItem ["li"]).closeParagraph.insert tag
  | .definition => (b.closeItem ["dd", "dt"]).closeParagraph.insert tag
  | .plainText => { b.closeParagraph.insert tag with textMode := .plain }
  | .button =>
      let b := if b.inScope "button" then b.implyAllEnds.close "button" else b
      b.reconstruct.insert tag
  | .link => b.closeLink.reconstruct.insertFormatting tag
  | .formatting => b.reconstruct.insertFormatting tag
  | .noBreak =>
      let b := b.reconstruct
      let b := if b.inScope "nobr" then (b.closeFormatting "nobr").reconstruct else b
      b.insertFormatting tag
  | .object => (b.reconstruct.insert tag).pushMarker
  | .table => (b.closeParagraph.insert tag).enter .table
  | .void => b.reconstruct.insertVoid tag
  | .loneVoid => b.insertVoid tag
  | .divider => b.closeParagraph.insertVoid tag
  | .textArea => (b.insertText tag (.escapable tag.name)).dropNewline
  | .example => b.closeParagraph.reconstruct.insertText tag (.raw tag.name)
  | .select => (b.reconstruct.insert tag).enter (selectMode b.mode)
  | .option => (if b.isAt "option" then b.pop else b).reconstruct.insert tag
  | .rubyBase => (if b.inScope "ruby" then b.implyAllEnds else b).insert tag
  | .rubyText => (if b.inScope "ruby" then b.implyEndsExcept "rtc" else b).insert tag
  | .math => b.insertForeign .math tag
  | .svg => b.insertForeign .svg tag
  | .other => b.reconstruct.insert tag

def endForm (b : Builder) : Builder :=
  if b.inTemplate then
    if b.inScope "form" then b.implyAllEnds.close "form" else b
  else
    match b.form with
    | none => b
    | some id =>
        let b := { b with form := none }
        if b.findInScope ElementName.boundsScope (· == id) b.stack then b.implyAllEnds.unstack id
        else b

def endInBody (b : Builder) (tag : String) : Builder :=
  match BodyEnd.ofTag tag with
  | .ignored => b
  | .template => b.closeTemplate
  | .block => if b.inScope tag then b.implyAllEnds.close tag else b
  | .form => b.endForm
  | .paragraph =>
      let b := if b.inScopeOf ElementName.boundsButtonScope tag then b else b.insertImplied tag
      (b.implyEndsExcept tag).close tag
  | .listItem =>
      if b.inScopeOf ElementName.boundsListScope tag then (b.implyEndsExcept tag).close tag else b
  | .definition => if b.inScope tag then (b.implyEndsExcept tag).close tag else b
  | .heading =>
      let isHeading := fun id => (b.name id).isOneOf ElementName.headings
      if b.findInScope ElementName.boundsScope isHeading b.stack then
        b.implyAllEnds.popThrough (·.isOneOf ElementName.headings)
      else b
  | .formatting => b.closeFormatting tag
  | .object => if b.inScope tag then (b.implyAllEnds.close tag).clearFormatting else b
  | .lineBreak => b.startInBody ⟨"br", [], false⟩
  | .other => b.closeOther tag

def textInBody (b : Builder) (content : String) : Builder :=
  b.reconstruct.addText content

def inBody (b : Builder) : Token → Builder
  | .startTag tag => b.startInBody tag
  | .endTag tag => b.endInBody tag
  | .text content _ => b.textInBody content
  | .comment => b.addComment
  | _ => b

end Builder

end SafeReadme.Html
