import SafeReadme.Html.Tree.Body
import SafeReadme.Text.Basic

/-!
# Rules for tables

A part of a table closes what it cannot stand in, opens what the document leaves out before it, and
hands its token on. Content that belongs in no part of a table goes in front of the table.
-/

namespace SafeReadme.Html

inductive Outcome where
  | done (b : Builder)
  /-- The rules of the mode that was entered still have to take `token`. -/
  | again (b : Builder) (token : Token)

def rowGroups : List String :=
  ["tbody", "tfoot", "thead"]

def cells : List String :=
  ["td", "th"]

namespace Builder

def clearToTable (b : Builder) : Builder :=
  b.popTo (·.isOneOf ["table", "template", "html"])

def clearToRowGroup (b : Builder) : Builder :=
  b.popTo (·.isOneOf ["tbody", "tfoot", "thead", "template", "html"])

def clearToRow (b : Builder) : Builder :=
  b.popTo (·.isOneOf ["tr", "template", "html"])

/-- Lets the rules of the body take a token, whose content goes in front of the table. -/
def foster (b : Builder) (token : Token) : Builder :=
  { { b with fostering := true }.inBody token with fostering := false }

def isHiddenInput (tag : Tag) : Bool :=
  match tag.attributes.find? (fun a => a.name == "type") with
  | some a => a.value.toLower == "hidden"
  | none => false

def textInTable (b : Builder) (token : Token) : Outcome :=
  if b.currentName.isOneOf ElementName.tableParts then
    .again { b with heldMode := b.mode, mode := .tableText, pendingText := "" } token
  else .done (b.foster token)

def isBlankText (content : String) : Bool :=
  content.toList.all Text.isBlank

/-- Gives the text between table parts its place: blank text stays, other text goes in front. -/
def placePendingText (b : Builder) : Builder :=
  let content := b.pendingText
  let b := { b with pendingText := "", mode := b.heldMode }
  if content.isEmpty then b
  else if isBlankText content then b.addText content
  else b.foster (.text content false)

def inTableText (b : Builder) (token : Token) : Outcome :=
  match token with
  | .text content _ => .done { b with pendingText := b.pendingText ++ content }
  | .null => .done b
  | _ => .again b.placePendingText token

def closeTable (b : Builder) : Builder :=
  (b.close "table").resetMode

def startInTable (b : Builder) (tag : Tag) : Outcome :=
  let name := tag.name
  if name == "caption" then .done ((b.clearToTable.pushMarker.insert tag).enter .caption)
  else if name == "colgroup" then .done ((b.clearToTable.insert tag).enter .columnGroup)
  else if name == "col" then
    .again ((b.clearToTable.insertImplied "colgroup").enter .columnGroup) (.startTag tag)
  else if rowGroups.contains name then .done ((b.clearToTable.insert tag).enter .tableBody)
  else if name == "tr" || cells.contains name then
    .again ((b.clearToTable.insertImplied "tbody").enter .tableBody) (.startTag tag)
  else if name == "table" then
    if b.inTableScope "table" then .again b.closeTable (.startTag tag) else .done b
  else if ["style", "script", "template"].contains name then .done (b.inBody (.startTag tag))
  else if name == "input" && isHiddenInput tag then .done (b.insertVoid tag)
  else if name == "form" then
    if b.inTemplate || b.form.isSome then .done b
    else .done { b.insertVoid tag with form := some b.arena.size }
  else .done (b.foster (.startTag tag))

def endInTable (b : Builder) (name : String) : Outcome :=
  if name == "table" then if b.inTableScope "table" then .done b.closeTable else .done b
  else if ["body", "caption", "col", "colgroup", "html", "tbody", "td", "tfoot", "th", "thead",
      "tr"].contains name then .done b
  else if name == "template" then .done b.closeTemplate
  else .done (b.foster (.endTag name))

def inTable (b : Builder) (token : Token) : Outcome :=
  match token with
  | .text _ _ | .null => b.textInTable token
  | .startTag tag => b.startInTable tag
  | .endTag name => b.endInTable name
  | .comment => .done b.addComment
  | _ => .done b

def inCaption (b : Builder) (token : Token) : Outcome :=
  let closed := (b.implyAllEnds.close "caption").clearFormatting.enter .table
  let leave := if b.inTableScope "caption" then .again closed token else .done b
  match token with
  | .startTag tag =>
      if ["caption", "col", "colgroup", "tbody", "td", "tfoot", "th", "thead",
          "tr"].contains tag.name then leave
      else .done (b.inBody token)
  | .endTag name =>
      if name == "caption" then if b.inTableScope "caption" then .done closed else .done b
      else if name == "table" then leave
      else if ["body", "col", "colgroup", "html", "tbody", "td", "tfoot", "th", "thead",
          "tr"].contains name then .done b
      else .done (b.inBody token)
  | _ => .done (b.inBody token)

def leaveColumns (b : Builder) (token : Token) : Outcome :=
  if b.isAt "colgroup" then .again (b.pop.enter .table) token else .done b

/-- Text in a group of columns: only space in front of all else belongs to it. -/
def textInColumnGroup (b : Builder) (content : String) : Outcome :=
  let space := content.toList.takeWhile (fun c => isSpace c || c = '\r')
  let more := content.toList.drop space.length
  let b := if space.isEmpty then b else b.addText (String.ofList space)
  if more.isEmpty then .done b else b.leaveColumns (.text (String.ofList more) false)

def inColumnGroup (b : Builder) (token : Token) : Outcome :=
  match token with
  | .text content _ => b.textInColumnGroup content
  | .comment => .done b.addComment
  | .startTag tag =>
      if tag.name == "html" then .done b
      else if tag.name == "col" then .done (b.insertVoid tag)
      else if tag.name == "template" then .done (b.openTemplate tag)
      else b.leaveColumns token
  | .endTag name =>
      if name == "colgroup" then
        if b.isAt "colgroup" then .done (b.pop.enter .table) else .done b
      else if name == "col" then .done b
      else if name == "template" then .done b.closeTemplate
      else b.leaveColumns token
  | .null => b.leaveColumns token
  | _ => .done b

def closeRowGroup (b : Builder) : Builder :=
  b.clearToRowGroup.pop.enter .table

def inTableBody (b : Builder) (token : Token) : Outcome :=
  let leave :=
    if b.inTableScope "table" || b.inTableScope "tbody" || b.inTableScope "tfoot" then
      .again b.closeRowGroup token
    else .done b
  match token with
  | .startTag tag =>
      if tag.name == "tr" then .done ((b.clearToRowGroup.insert tag).enter .row)
      else if cells.contains tag.name then
        .again ((b.clearToRowGroup.insertImplied "tr").enter .row) token
      else if (["caption", "col", "colgroup"] ++ rowGroups).contains tag.name then leave
      else b.inTable token
  | .endTag name =>
      if rowGroups.contains name then
        if b.inTableScope name then .done b.closeRowGroup else .done b
      else if name == "table" then leave
      else if ["body", "caption", "col", "colgroup", "html", "td", "th", "tr"].contains name then
        .done b
      else b.inTable token
  | _ => b.inTable token

def closeRow (b : Builder) : Builder :=
  b.clearToRow.pop.enter .tableBody

def inRow (b : Builder) (token : Token) : Outcome :=
  let leave := if b.inTableScope "tr" then .again b.closeRow token else .done b
  match token with
  | .startTag tag =>
      if cells.contains tag.name then
        .done ((b.clearToRow.insert tag).enter .cell).pushMarker
      else if (["caption", "col", "colgroup", "tr"] ++ rowGroups).contains tag.name then leave
      else b.inTable token
  | .endTag name =>
      if name == "tr" then if b.inTableScope "tr" then .done b.closeRow else .done b
      else if name == "table" then leave
      else if rowGroups.contains name then if b.inTableScope name then leave else .done b
      else if ["body", "caption", "col", "colgroup", "html", "td", "th"].contains name then .done b
      else b.inTable token
  | _ => b.inTable token

def closeCell (b : Builder) : Builder :=
  ((b.implyAllEnds.popThrough (·.isOneOf cells)).clearFormatting).enter .row

def inCell (b : Builder) (token : Token) : Outcome :=
  match token with
  | .startTag tag =>
      if (["caption", "col", "colgroup", "tr"] ++ cells ++ rowGroups).contains tag.name then
        if b.inTableScope "td" || b.inTableScope "th" then .again b.closeCell token else .done b
      else .done (b.inBody token)
  | .endTag name =>
      if cells.contains name then
        if b.inTableScope name then
          .done (((b.implyAllEnds.close name).clearFormatting).enter .row)
        else .done b
      else if ["body", "caption", "col", "colgroup", "html"].contains name then .done b
      else if (["table", "tr"] ++ rowGroups).contains name then
        if b.inTableScope name then .again b.closeCell token else .done b
      else .done (b.inBody token)
  | _ => .done (b.inBody token)

end Builder

end SafeReadme.Html
