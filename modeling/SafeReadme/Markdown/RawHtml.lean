import SafeReadme.Markdown.Line

/-!
# HTML in Markdown

Tags, comments and the like that are passed on as they are. Each reader gets what stands behind `<`
and returns what follows the closing bracket.
-/

namespace SafeReadme.Markdown

def isTagChar (c : Char) : Bool :=
  c.isAlphanum || c = '-'

def dropGap (multiline : Bool) (cs : List Char) : List Char :=
  cs.dropWhile (fun c => isGap c || (multiline && isWhite c))

def isBareValueChar (c : Char) : Bool :=
  !(c = '"' || c = '\x27' || c = ' ' || c = '=' || c = '<' || c = '>' || c = '\x60' || c = '\n' ||
    c = '\r')

def quotedValue? (multiline : Bool) (quote : Char) : List Char → Option (List Char)
  | [] => none
  | c :: cs =>
      if c = quote then some cs
      else if !multiline && (c = '\n' || c = '\r') then none
      else quotedValue? multiline quote cs

def attributeValue? (multiline : Bool) : List Char → Option (List Char)
  | [] => none
  | c :: cs =>
      if c = '"' || c = '\x27' then quotedValue? multiline c cs
      else if isBareValueChar c && !isWhite c then some (cs.dropWhile isBareValueChar)
      else none

def attribute? (multiline : Bool) : List Char → Option (List Char)
  | [] => none
  | c :: cs =>
      if c.isAlpha || c = '_' || c = ':' then
        let behind :=
          cs.dropWhile (fun c => c.isAlphanum || c = '_' || c = '.' || c = ':' || c = '-')
        match dropGap multiline behind with
        | '=' :: value => attributeValue? multiline (dropGap multiline value)
        | _ => some behind
      else none

def attributes? (multiline : Bool) : (count : Nat) → List Char → Option (List Char)
  | 0, _ => none
  | count + 1, cs =>
      match dropGap multiline cs with
      | '>' :: rest => some rest
      | '/' :: '>' :: rest => some rest
      | next =>
          if next.length = cs.length then none
          else
            match attribute? multiline next with
            | some rest => attributes? multiline count rest
            | none => none

def tag? (multiline : Bool) : List Char → Option (List Char)
  | [] => none
  | '/' :: c :: cs =>
      if !c.isAlpha then none
      else
        match (cs.dropWhile isTagChar).dropWhile isGap with
        | '>' :: rest => some rest
        | _ => none
  | c :: cs =>
      if !c.isAlpha then none
      else attributes? multiline (cs.length + 1) (cs.dropWhile isTagChar)

def behind? (mark : List Char) : List Char → Option (List Char)
  | [] => none
  | c :: cs =>
      if mark.isPrefixOf (c :: cs) then some ((c :: cs).drop mark.length) else behind? mark cs

def declaration? : List Char → Option (List Char)
  | '-' :: '-' :: '>' :: cs => some cs
  | '-' :: '-' :: '-' :: '>' :: cs => some cs
  | '-' :: '-' :: cs => behind? ['-', '-', '>'] cs
  | c :: cs =>
      if "[CDATA[".toList.isPrefixOf (c :: cs) then
        match ((cs.drop 6).dropWhile (· != ']')).span (· == ']') with
        | (_ :: _, '>' :: rest) => some rest
        | _ => none
      else if c.isAlpha then behind? ['>'] cs
      else none
  | [] => none

def inlineHtml? : List Char → Option (List Char)
  | '!' :: cs => declaration? cs
  | '?' :: cs => behind? ['?', '>'] cs
  | cs => tag? true cs

/-! ## Blocks of HTML -/

def verbatimTags : List String :=
  ["pre", "style", "script", "textarea"]

/-- What ends a block that starts behind this `<` and may hold empty lines. -/
def verbatimEnd? (cs : List Char) : Option (List Char) :=
  let opened := verbatimTags.find? fun tag =>
    (cs.take tag.length).map Char.toLower == tag.toList &&
      match cs[tag.length]? with
      | some c => isWhite c || c = '>'
      | none => true
  match opened with
  | some tag => some ("</" ++ tag ++ ">").toList
  | none =>
      match cs with
      | '!' :: '-' :: '-' :: _ => some "-->".toList
      | '?' :: _ => some "?>".toList
      | '!' :: c :: rest =>
          if "[CDATA[".toList.isPrefixOf (c :: rest) then some "]]>".toList
          else if c.isAlpha then some ">".toList
          else none
      | _ => none

def blockTags : List String :=
  ["address", "article", "aside", "base", "basefont", "blockquote", "body", "caption", "center",
    "col", "colgroup", "dd", "details", "dialog", "dir", "div", "dl", "dt", "fieldset",
    "figcaption", "figure", "footer", "form", "frame", "frameset", "h1", "h2", "h3", "h4", "h5",
    "h6", "head", "header", "hr", "html", "iframe", "legend", "li", "link", "main", "menu",
    "menuitem", "nav", "noframes", "ol", "optgroup", "option", "p", "param", "search", "section",
    "summary", "table", "tbody", "td", "tfoot", "th", "thead", "title", "tr", "track", "ul"]

def startsBlockTag (cs : List Char) : Bool :=
  let cs := match cs with
    | '/' :: rest => rest
    | _ => cs
  let name := cs.takeWhile Char.isAlphanum
  blockTags.contains (String.ofList (name.map Char.toLower)) &&
    match cs.drop name.length with
    | [] => true
    | '/' :: '>' :: _ => true
    | c :: _ => c = ' ' || c = '\t' || c = '>'

/-- Whether a whole tag stands behind this `<`, with nothing behind it in the line. -/
def isLoneTag (cs : List Char) : Bool :=
  match tag? false cs with
  | some rest => isBlankRest rest
  | none => false

end SafeReadme.Markdown
