/-!
# HTML trees

A document is a forest of texts and elements, with texts and attribute values as they are decoded. Its
written form has lower-case tags as they are stored, double-quoted attribute values, and no content
and no end tag for void elements. The characters that would end a text or a value are written as
character references.
-/

namespace SafeReadme.Html

/-! ## Escapes -/

def textChar (c : Char) : List Char :=
  if c = '<' then "&lt;".toList
  else if c = '>' then "&gt;".toList
  else if c = '&' then "&amp;".toList
  else [c]

def valueChar (c : Char) : List Char :=
  if c = '"' then "&quot;".toList
  else if c = '\x27' then "&#39;".toList
  else textChar c

def escapeText (s : String) : String :=
  String.ofList (s.toList.flatMap textChar)

def escapeValue (s : String) : String :=
  String.ofList (s.toList.flatMap valueChar)

/-! ## Trees -/

structure Attribute where
  name : String
  value : String
  deriving DecidableEq, Repr, Inhabited

inductive Node where
  | text (content : String)
  | element (tag : String) (attributes : List Attribute) (children : List Node)
  deriving Repr, Inhabited

def voidElements : List String :=
  ["area", "base", "br", "col", "embed", "hr", "img", "input", "link", "meta", "source", "track",
    "wbr"]

def isVoid (tag : String) : Bool :=
  voidElements.contains tag

/-- Whether a reader drops a newline right after the start tag. -/
def dropsNewline (tag : String) : Bool :=
  tag == "pre" || tag == "textarea" || tag == "listing"

def startsWithNewline : List Node → Bool
  | .text content :: _ => content.toList.head? == some '\n'
  | _ => false

def Attribute.writeTo (out : String) (a : Attribute) : String :=
  out ++ " " ++ a.name ++ "=\"" ++ escapeValue a.value ++ "\""

def writeOpening (out tag : String) (attributes : List Attribute) : String :=
  attributes.foldl Attribute.writeTo (out ++ "<" ++ tag)

mutual

def Node.writeTo (out : String) : Node → String
  | .text content => out ++ escapeText content
  | .element tag attributes children =>
      let opened := writeOpening out tag attributes
      if isVoid tag then opened ++ " />"
      else
        let start := opened ++ ">"
        let start :=
          if dropsNewline tag && startsWithNewline children then start ++ "\n" else start
        writeAllTo start children ++ "</" ++ tag ++ ">"

def writeAllTo (out : String) : List Node → String
  | [] => out
  | node :: rest => writeAllTo (node.writeTo out) rest

end

def write (nodes : List Node) : String :=
  writeAllTo "" nodes

end SafeReadme.Html
