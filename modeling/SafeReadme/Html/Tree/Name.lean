import SafeReadme.Html.Token

/-!
# Element names

An element belongs to HTML or to one of the two vocabularies that can be embedded in it. The lists
say which names the construction of a tree treats alike. Tags are lower-case in all vocabularies.
-/

namespace SafeReadme.Html

inductive Vocabulary where
  | html
  | svg
  | math
  deriving DecidableEq, Repr

structure ElementName where
  vocabulary : Vocabulary
  tag : String
  deriving DecidableEq, Repr

namespace ElementName

def is (name : ElementName) (tag : String) : Bool :=
  name.vocabulary == .html && name.tag == tag

def isOneOf (name : ElementName) (tags : List String) : Bool :=
  name.vocabulary == .html && tags.contains name.tag

def holdsText (name : ElementName) : Bool :=
  name.vocabulary == .math && ["mi", "mo", "mn", "ms", "mtext"].contains name.tag

def holdsHtml (name : ElementName) : Bool :=
  name.vocabulary == .svg && ["foreignobject", "desc", "title"].contains name.tag

def headings : List String :=
  ["h1", "h2", "h3", "h4", "h5", "h6"]

/-- Elements that a formatting element does not reach across. -/
def special : List String :=
  ["address", "applet", "area", "article", "aside", "base", "basefont", "bgsound", "blockquote",
    "body", "br", "button", "caption", "center", "col", "colgroup", "dd", "details", "dir", "div",
    "dl", "dt", "embed", "fieldset", "figcaption", "figure", "footer", "form", "frame",
    "frameset", "h1", "h2", "h3", "h4", "h5", "h6", "head", "header", "hgroup", "hr", "html",
    "iframe", "img", "input", "isindex", "li", "link", "listing", "main", "marquee", "menu",
    "meta", "nav", "noembed", "noframes", "noscript", "object", "ol", "p", "param", "plaintext",
    "pre", "script", "section", "select", "source", "style", "summary", "table", "tbody", "td",
    "template", "textarea", "tfoot", "th", "thead", "title", "tr", "track", "ul", "wbr", "xmp"]

def isSpecial (name : ElementName) : Bool :=
  name.isOneOf special

def impliedEnd : List String :=
  ["dd", "dt", "li", "option", "optgroup", "p", "rb", "rp", "rt", "rtc"]

def impliedTemplateEnd : List String :=
  impliedEnd ++ ["caption", "colgroup", "tbody", "td", "tfoot", "th", "thead", "tr"]

def boundsScope (name : ElementName) : Bool :=
  name.isOneOf
      ["applet", "caption", "html", "table", "td", "th", "marquee", "object", "template"] ||
    name.holdsText || name.holdsHtml

def boundsListScope (name : ElementName) : Bool :=
  name.boundsScope || name.isOneOf ["ol", "ul"]

def boundsButtonScope (name : ElementName) : Bool :=
  name.boundsScope || name.is "button"

def boundsTableScope (name : ElementName) : Bool :=
  name.isOneOf ["html", "table", "template"]

def boundsSelectScope (name : ElementName) : Bool :=
  !name.isOneOf ["optgroup", "option"]

/-- Elements in which text is no content of their own. -/
def tableParts : List String :=
  ["table", "tbody", "tfoot", "thead", "tr"]

end ElementName

def svgAttributes : List String :=
  ["attributeName", "attributeType", "baseFrequency", "baseProfile", "calcMode", "clipPathUnits",
    "diffuseConstant", "edgeMode", "filterUnits", "glyphRef", "gradientTransform",
    "gradientUnits", "kernelMatrix", "kernelUnitLength", "keyPoints", "keySplines", "keyTimes",
    "lengthAdjust", "limitingConeAngle", "markerHeight", "markerUnits", "markerWidth",
    "maskContentUnits", "maskUnits", "numOctaves", "pathLength", "patternContentUnits",
    "patternTransform", "patternUnits", "pointsAtX", "pointsAtY", "pointsAtZ", "preserveAlpha",
    "preserveAspectRatio", "primitiveUnits", "refX", "refY", "repeatCount", "repeatDur",
    "requiredExtensions", "requiredFeatures", "specularConstant", "specularExponent",
    "spreadMethod", "startOffset", "stdDeviation", "stitchTiles", "surfaceScale",
    "systemLanguage", "tableValues", "targetX", "targetY", "textLength", "viewBox", "viewTarget",
    "xChannelSelector", "yChannelSelector", "zoomAndPan"]

def attributeSpelling (vocabulary : Vocabulary) (name : String) : String :=
  match vocabulary with
  | .html => name
  | .svg =>
      if name == "xmlns" then ":xmlns"
      else (svgAttributes.find? (fun s => s.toLower == name)).getD name
  | .math =>
      if name == "xmlns" then ":xmlns"
      else if name == "definitionurl" then "definitionURL"
      else name

def spellAttributes (vocabulary : Vocabulary) (attributes : List Attribute) : List Attribute :=
  attributes.map (fun a => ⟨attributeSpelling vocabulary a.name, a.value⟩)

end SafeReadme.Html
