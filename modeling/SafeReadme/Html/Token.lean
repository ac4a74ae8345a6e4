import SafeReadme.Html.Node

/-!
# Tokens

What the text of a document is cut into before a tree is built from it.
-/

namespace SafeReadme.Html

structure Tag where
  name : String
  attributes : List Attribute
  selfClosing : Bool
  deriving DecidableEq, Repr, Inhabited

inductive Token where
  | startTag (tag : Tag)
  | endTag (name : String)
  /-- Character data. A newline at its start is kept after a `pre` tag too if `keepsNewline`. -/
  | text (content : String) (keepsNewline : Bool)
  | null
  | cdata (content : String)
  | comment
  /-- A document type, or an end tag without a name. -/
  | ignored
  deriving DecidableEq, Repr

inductive TextMode where
  | data
  /-- References, up to the end tag of the element. -/
  | escapable (tag : String)
  /-- Nothing but characters, up to the end tag of the element. -/
  | raw (tag : String)
  /-- The same for a script, whose comments may hold scripts. -/
  | script
  /-- Nothing but characters, to the end of the document. -/
  | plain
  deriving DecidableEq, Repr

structure Lexed where
  token : Token
  rest : List Char
  deriving DecidableEq, Repr

def isSpace (c : Char) : Bool :=
  c = ' ' || c = '\n' || c = '\t' || c = '\x0c'

def visible (c : Char) : Char :=
  if c = '\x00' then '\ufffd' else c

/-- Whether `tag` stands in front of `cs` in any case, and ends there. -/
def namesTag (tag : String) (cs : List Char) : Bool :=
  (cs.take tag.length).map Char.toLower == tag.toList &&
    match cs[tag.length]? with
    | some c => isSpace c || c = '/' || c = '>'
    | none => false

def closes (tag : String) : List Char → Bool
  | '/' :: cs => namesTag tag cs
  | _ => false

def normalizeNewlines : List Char → List Char
  | [] => []
  | '\r' :: '\n' :: cs => '\n' :: normalizeNewlines cs
  | c :: cs => (if c = '\r' then '\n' else c) :: normalizeNewlines cs

end SafeReadme.Html
