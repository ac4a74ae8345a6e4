import SafeReadme.Html.Token.Next
import SafeReadme.Html.Tree.Foreign

/-!
# Construction

Each token is taken by the rules of the current mode, or of the embedded vocabulary it stands in.
`read?` reads a whole document as the content of a body. It never fails for the syntax; only a tree
that is nested too deep is refused.
-/

namespace SafeReadme.Html

namespace Builder

def inText (b : Builder) (token : Token) : Builder :=
  match token with
  | .text content _ => b.addText content
  | .endTag _ => { b.pop with mode := b.heldMode, textMode := .data }
  | _ => b

def stepMode (b : Builder) (token : Token) : Outcome :=
  match b.mode with
  | .body => .done (b.inBody token)
  | .text => .done (b.inText token)
  | .table => b.inTable token
  | .tableText => b.inTableText token
  | .caption => b.inCaption token
  | .columnGroup => b.inColumnGroup token
  | .tableBody => b.inTableBody token
  | .row => b.inRow token
  | .cell => b.inCell token
  | .select => b.inSelect token
  | .selectInTable => b.inSelectInTable token
  | .template => b.inTemplateContent token

def stepForeign (b : Builder) (token : Token) : Outcome :=
  match token with
  | .text content _ => .done (b.addText content)
  | .null => .done (b.addText "\ufffd")
  | .comment => .done b.addComment
  | .startTag tag =>
      if tag.breaksOut then b.leaveForeign.stepMode token else .done (b.startInForeign tag)
  | .endTag name =>
      if name == "p" || name == "br" then b.leaveForeign.stepMode token
      else
        match b.foreignEnd name b.stack with
        | .closes id => .done { b with stack := (b.stack.dropWhile (· != id)).drop 1 }
        | .html => b.stepMode token
        | .nothing => .done b
  | _ => .done b

def step (b : Builder) (token : Token) : Outcome :=
  if b.isForeign token then b.stepForeign token else b.stepMode token

def settle : (rounds : Nat) → Token → Builder → Builder
  | 0, _, b => b
  | rounds + 1, token, b =>
      match b.step token with
      | .done b => b
      | .again b token => settle rounds token b

/-- Takes a token. Each rule that hands it on closes an element, opens one of at most three that are
left out, or gives a template its mode, so the rounds suffice. -/
def take (b : Builder) (token : Token) : Builder :=
  settle (2 * b.stack.length + 8) token b

def takeText (b : Builder) (content : String) (keepsNewline : Bool) : Builder :=
  let cs := content.toList
  let dropped := b.dropsNewline && !keepsNewline && cs.head? == some '\n'
  let b := { b with dropsNewline := false }
  if !dropped then if cs.isEmpty then b else b.take (.text content keepsNewline)
  else if cs.tail.isEmpty then b
  else b.take (.text (String.ofList cs.tail) keepsNewline)

def takeSection (b : Builder) (done : String) : List Char → Builder
  | [] => b.takeText done true
  | c :: cs =>
      if c = '\x00' then ((b.takeText done true).take .null).takeSection "" cs
      else b.takeSection (done.push c) cs

def next (b : Builder) (token : Token) : Builder :=
  match token with
  | .text content keepsNewline => b.takeText content keepsNewline
  | .cdata content => b.takeSection "" content.toList
  | .ignored => { b with dropsNewline := false }
  | _ => { b with dropsNewline := false }.take token

def allowsSections (b : Builder) : Bool :=
  b.currentName.vocabulary != .html

def dropMark : List Char → List Char
  | [] => []
  | c :: cs => if c = '\ufeff' then cs else c :: cs

/-- Takes at most `count` tokens. A byte order mark right behind a script is none of its text. -/
def run : (count : Nat) → Builder → List Char → Builder
  | 0, b, _ => b
  | count + 1, b, cs =>
      match next? b.textMode b.allowsSections cs with
      | none => if b.mode = .tableText then b.placePendingText else b
      | some lexed =>
          let inScript := b.textMode == .script
          let b := b.next lexed.token
          run count b (if inScript && b.textMode == .data then dropMark lexed.rest else lexed.rest)

/-- The tree of a document. Every token takes at least one character. -/
def construct (cs : List Char) : Builder :=
  run (cs.length + 1) start (normalizeNewlines (dropMark cs))

end Builder

/-! ## Documents -/

def maxDepth : Nat :=
  512

/-- The trees under the top. Their leaves may lie one level below the deepest elements. -/
def Builder.nodes? (b : Builder) : Option (List Node) :=
  b.arena.nodes? (maxDepth + 1) (b.arena.entry 0).children.reverse

def read? (html : String) : Option (List Node) :=
  (Builder.construct html.toList).nodes?

end SafeReadme.Html
