import SafeReadme.Html.Node
import SafeReadme.Markdown.Block
import SafeReadme.Markdown.Block.Read
import SafeReadme.Markdown.Inline.Read
import SafeReadme.Url.Percent

/-!
# Writing HTML

Blocks start on lines of their own. The output knows whether it stands at the start of a line, and
which footnotes have a number. HTML in a document is passed on as it is.
-/

namespace SafeReadme.Markdown

def valueChar (c : Char) : List Char :=
  if c = '"' then "&quot;".toList else Html.textChar c

def escapeValue (s : String) : String :=
  String.ofList (s.toList.flatMap valueChar)

def isUrlChar (c : Char) : Bool :=
  c.isAlphanum || "!#$%()*+,-./:;=?@_~".toList.contains c

def urlChar (c : Char) : List Char :=
  if isUrlChar c then [c]
  else if c = '&' then "&amp;".toList
  else if c = '\x27' then "&#x27;".toList
  else Url.escapeChar c

def escapeUrl (s : String) : String :=
  String.ofList (s.toList.flatMap urlChar)

structure Output where
  html : String
  atLineStart : Bool
  notes : List String

namespace Output

def empty : Output :=
  ⟨"", true, []⟩

def put (o : Output) (s : String) : Output :=
  ⟨o.html ++ s, if s.isEmpty then o.atLineStart else s.toList.getLast? == some '\n', o.notes⟩

def newline (o : Output) : Output :=
  if o.atLineStart then o else o.put "\n"

/-- The number of a footnote, which is given with its first mention. -/
def number (o : Output) (label : String) : Output × Nat :=
  let earlier := o.notes.dropWhile (· != label)
  if earlier.isEmpty then ({ o with notes := label :: o.notes }, o.notes.length + 1)
  else (o, earlier.length)

def putTitle (o : Output) (title ending : String) : Output :=
  let o := if title.isEmpty then o else o.put ("\" title=\"" ++ escapeValue title)
  o.put ("\"" ++ ending)

end Output

/-! ## Inline content -/

def Stress.tag : Stress → String
  | emphasis => "em"
  | strong => "strong"
  | deleted => "del"

mutual

def Inline.writePlain (o : Output) : Inline → Output
  | .text content | .code content | .html content => o.put (escapeValue content)
  | .softBreak | .hardBreak => o.put " "
  | .stress _ children | .link _ _ children | .image _ _ children => writePlainAll o children
  | .mail address => o.put (escapeValue address)
  | .footnote label =>
      let (o, number) := o.number label
      o.put ("[" ++ toString number ++ "]")

def writePlainAll (o : Output) : List Inline → Output
  | [] => o
  | inline :: rest => writePlainAll (inline.writePlain o) rest

end

mutual

def Inline.write (o : Output) : Inline → Output
  | .text content => o.put (Html.escapeText content)
  | .code content => o.put ("<code>" ++ Html.escapeText content ++ "</code>")
  | .html content => o.put content
  | .softBreak => o.put "\n"
  | .hardBreak => o.put "<br />\n"
  | .stress kind children =>
      (writeInlines (o.put ("<" ++ kind.tag ++ ">")) children).put ("</" ++ kind.tag ++ ">")
  | .link target title children =>
      let o := (o.put ("<a href=\"" ++ escapeUrl target)).putTitle title ">"
      (writeInlines o children).put "</a>"
  | .mail address =>
      o.put ("<a href=\"mailto:" ++ escapeUrl address ++ "\">" ++ Html.escapeText address ++ "</a>")
  | .image source title children =>
      let o := o.put ("<img src=\"" ++ escapeUrl source ++ "\" alt=\"")
      (writePlainAll o children).putTitle title " />"
  | .footnote label =>
      let (o, number) := o.number label
      o.put ("<sup class=\"footnote-reference\"><a href=\"#" ++ escapeValue label ++ "\">" ++
        toString number ++ "</a></sup>")

def writeInlines (o : Output) : List Inline → Output
  | [] => o
  | inline :: rest => writeInlines (inline.write o) rest

end

/-! ## Blocks -/

def References.write (refs : References) (o : Output) (content : List Char) : Output :=
  writeInlines o (refs.read content)

def Output.putTask (o : Output) : Option Bool → Output
  | none => o
  | some true => o.put "<input disabled=\"\" type=\"checkbox\" checked=\"\"/>\n"
  | some false => o.put "<input disabled=\"\" type=\"checkbox\"/>\n"

def Alignment.attribute : Alignment → String
  | unset => ">"
  | left => " style=\"text-align: left\">"
  | center => " style=\"text-align: center\">"
  | right => " style=\"text-align: right\">"

def References.writeCells (refs : References) (tag : String) (o : Output)
    (cells : List (Alignment × List Char)) : Output :=
  cells.foldl
    (fun o cell =>
      (refs.write (o.put ("<" ++ tag ++ cell.1.attribute)) cell.2).put ("</" ++ tag ++ ">"))
    o

def References.writeTable (refs : References) (o : Output) (columns : List Alignment)
    (head : List (List Char)) (rows : List (List (List Char))) : Output :=
  let o := refs.writeCells "th" (o.put "<table><thead><tr>") (columns.zip head)
  let o := o.put "</tr></thead><tbody>\n"
  let o := rows.foldl
    (fun o cells => (refs.writeCells "td" (o.put "<tr>") (columns.zip cells)).put "</tr>\n") o
  o.put "</tbody></table>\n"

def codeTag (info : String) : String :=
  let language := String.ofList (info.toList.takeWhile (· != ' '))
  if language.isEmpty then "<pre><code>"
  else "<pre><code class=\"language-" ++ escapeValue language ++ "\">"

def listTag : Option Nat → String
  | none => "<ul>\n"
  | some 1 => "<ol>\n"
  | some start => "<ol start=\"" ++ toString start ++ "\">\n"

mutual

/-- Writes a block; the paragraphs of a tight list's items have no tags. -/
def Block.write (refs : References) (isTight : Bool) (o : Output) : Block → Output
  | .paragraph task content =>
      if isTight then refs.write (o.putTask task) content
      else (refs.write ((o.newline.put "<p>").putTask task) content).put "</p>\n"
  | .heading level content =>
      let tag := "h" ++ toString level ++ ">"
      (refs.write (o.newline.put ("<" ++ tag)) content).put ("</" ++ tag ++ "\n")
  | .code info content =>
      ((o.newline.put (codeTag info)).put (Html.escapeText content)).put "</code></pre>\n"
  | .html content => o.put content
  | .divider => o.newline.put "<hr />\n"
  | .quote children =>
      (writeBlocks refs false (o.newline.put "<blockquote>\n") children).put "</blockquote>\n"
  | .list start isTight items =>
      (writeBlocks refs isTight (o.newline.put (listTag start)) items).put
        (if start.isSome then "</ol>\n" else "</ul>\n")
  | .item children =>
      (writeBlocks refs isTight (o.newline.put "<li>") children).put "</li>\n"
  | .footnote label children =>
      let (o, number) := o.newline.number label
      let o := o.put ("<div class=\"footnote-definition\" id=\"" ++ escapeValue label ++
        "\"><sup class=\"footnote-definition-label\">" ++ toString number ++ "</sup>")
      (writeBlocks refs false o children).put "</div>\n"
  | .table columns head rows => refs.writeTable o columns head rows

def writeBlocks (refs : References) (isTight : Bool) (o : Output) : List Block → Output
  | [] => o
  | block :: rest => writeBlocks refs isTight (block.write refs isTight o) rest

end

/-! ## Documents -/

def Outline.references (o : Options) (d : Outline) : References where
  definitions := d.definitions.reverse
  footnotes := if o.footnotes then some d.footnotes else none
  strikethrough := o.strikethrough

def toHtml (o : Options) (text : String) : String :=
  let d := Outline.read o text
  (writeBlocks (d.references o) false .empty d.blocks).html

end SafeReadme.Markdown
