import SafeReadme.Html.Tree.Table

/-!
# Rules for selections and templates

A selection holds options and text; other tags are passed over or close it. A template takes the
mode that its first tag asks for.
-/

namespace SafeReadme.Html.Builder

def closeSelect (b : Builder) : Builder :=
  (b.close "select").resetMode

def closeOption (b : Builder) : Builder :=
  if b.isAt "option" then b.pop else b

def inSelectScope (b : Builder) : Bool :=
  b.inScopeOf ElementName.boundsSelectScope "select"

def startInSelect (b : Builder) (tag : Tag) : Outcome :=
  let name := tag.name
  if name == "option" then .done (b.closeOption.insert tag)
  else if name == "optgroup" then
    let b := b.closeOption
    .done ((if b.isAt "optgroup" then b.pop else b).insert tag)
  else if name == "select" then .done (if b.inSelectScope then b.closeSelect else b)
  else if ["input", "keygen", "textarea"].contains name then
    if b.inSelectScope then .again b.closeSelect (.startTag tag) else .done b
  else if ["script", "template"].contains name then .done (b.inBody (.startTag tag))
  else .done b

def endInSelect (b : Builder) (name : String) : Builder :=
  if name == "optgroup" then
    let inner := b.isAt "option" && (b.name (b.pop.current)).is "optgroup"
    let b := if inner then b.pop else b
    if b.isAt "optgroup" then b.pop else b
  else if name == "option" then b.closeOption
  else if name == "select" then if b.inSelectScope then b.closeSelect else b
  else if name == "template" then b.closeTemplate
  else b

def inSelect (b : Builder) (token : Token) : Outcome :=
  match token with
  | .text content _ => .done (b.addText content)
  | .comment => .done b.addComment
  | .startTag tag => b.startInSelect tag
  | .endTag name => .done (b.endInSelect name)
  | _ => .done b

/-- The tags of table parts that a selection cannot hold. -/
def tableTags : List String :=
  ["caption", "table", "tbody", "tfoot", "thead", "tr", "td", "th"]

def inSelectInTable (b : Builder) (token : Token) : Outcome :=
  match token with
  | .startTag tag =>
      if tableTags.contains tag.name then .again b.closeSelect token else b.inSelect token
  | .endTag name =>
      if tableTags.contains name then
        if b.inTableScope name then .again b.closeSelect token else .done b
      else b.inSelect token
  | _ => b.inSelect token

def templateMode (tag : String) : Mode :=
  if (["caption", "colgroup"] ++ rowGroups).contains tag then .table
  else if tag == "col" then .columnGroup
  else if tag == "tr" then .tableBody
  else if cells.contains tag then .row
  else .body

def inTemplateContent (b : Builder) (token : Token) : Outcome :=
  match token with
  | .startTag tag =>
      if ["base", "basefont", "bgsound", "link", "meta", "noframes", "script", "style", "template",
          "title"].contains tag.name then .done (b.inBody token)
      else
        let mode := templateMode tag.name
        .again { b with templateModes := mode :: b.templateModes.drop 1, mode } token
  | .endTag name => .done (if name == "template" then b.closeTemplate else b)
  | _ => .done (b.inBody token)

end SafeReadme.Html.Builder
