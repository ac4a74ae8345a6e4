import SafeReadme.Html.Token.Tag
import SafeReadme.Html.Token.Text

/-!
# The next token

`next? mode foreign cs` reads one token; there is none at the end and in a tag that never ends.
`foreign` says that a marked section may stand here.
-/

namespace SafeReadme.Html

/-! ## Where comments end

A comment ends at `-->` or `--!>`, or at once if `>` or `->` starts it.
-/

inductive CommentPart where
  | start
  | startDash
  | body
  | dash
  | dashes
  | bang
  deriving DecidableEq, Repr

/-- Reads a character of a comment; `none` where the comment ends with it. -/
def CommentPart.step (part : CommentPart) (c : Char) : Option CommentPart :=
  match part with
  | .start => if c = '>' then none else if c = '-' then some .startDash else some .body
  | .startDash => if c = '>' then none else if c = '-' then some .dashes else some .body
  | .body => if c = '-' then some .dash else some .body
  | .dash => if c = '-' then some .dashes else some .body
  | .dashes =>
      if c = '>' then none
      else if c = '!' then some .bang
      else if c = '-' then some .dashes
      else some .body
  | .bang => if c = '>' then none else if c = '-' then some .dash else some .body

def skipComment (part : CommentPart) : List Char → List Char
  | [] => []
  | c :: cs =>
      match part.step c with
      | some part => skipComment part cs
      | none => cs

def skipPastBracket : List Char → List Char
  | [] => []
  | c :: cs => if c = '>' then cs else skipPastBracket cs

/-! ## Tokens -/

def startsWithFolded (word : List Char) (cs : List Char) : Bool :=
  (cs.take word.length).map Char.toLower == word

def readDeclaration (foreign : Bool) (cs : List Char) : Lexed :=
  if cs.take 2 == ['-', '-'] then ⟨.comment, skipComment .start (cs.drop 2)⟩
  else if startsWithFolded "doctype".toList cs then ⟨.ignored, skipPastBracket cs⟩
  else if foreign && cs.take 7 == "[CDATA[".toList then
    let (content, rest) := readSection "" (cs.drop 7)
    ⟨.cdata content, rest⟩
  else ⟨.comment, skipPastBracket cs⟩

def readEndTag? (cs : List Char) : Option Lexed :=
  (readTag .empty .name 0 cs).map (fun (tag, rest) => ⟨.endTag tag.name, rest⟩)

def readMarkup? (foreign : Bool) : List Char → Option Lexed
  | [] => some ⟨.text "<" false, []⟩
  | '!' :: cs => some (readDeclaration foreign cs)
  | '?' :: cs => some ⟨.comment, skipPastBracket cs⟩
  | ['/'] => some ⟨.text "</" false, []⟩
  | '/' :: '>' :: cs => some ⟨.ignored, cs⟩
  | '/' :: c :: cs =>
      if c.isAlpha then readEndTag? (c :: cs) else some ⟨.comment, skipPastBracket (c :: cs)⟩
  | c :: cs =>
      if c.isAlpha then
        (readTag .empty .name 0 (c :: cs)).map (fun (tag, rest) => ⟨.startTag tag, rest⟩)
      else some ⟨.text "<" false, c :: cs⟩

def textToken (cs : List Char) (read : String × List Char) : Lexed :=
  ⟨.text read.1 (startsUnterminated cs), read.2⟩

def next? (mode : TextMode) (foreign : Bool) : List Char → Option Lexed
  | [] => none
  | c :: cs =>
      match mode with
      | .data =>
          if c = '<' then readMarkup? foreign cs
          else if c = '\x00' then some ⟨.null, cs⟩
          else some (textToken (c :: cs) (readText "" 0 (c :: cs)))
      | .escapable tag =>
          if c = '<' && closes tag cs then readEndTag? (cs.drop 1)
          else some (textToken (c :: cs) (readEscapable tag "" 0 (c :: cs)))
      | .raw tag =>
          if c = '<' && closes tag cs then readEndTag? (cs.drop 1)
          else some ⟨.text (readRaw tag "" (c :: cs)).1 false, (readRaw tag "" (c :: cs)).2⟩
      | .script =>
          if c = '<' && closes "script" cs then readEndTag? (cs.drop 1)
          else
            let (content, rest) := readScript .outside "" 0 (c :: cs)
            some ⟨.text content false, rest⟩
      | .plain => some ⟨.text (String.ofList ((c :: cs).map visible)) false, []⟩

end SafeReadme.Html
