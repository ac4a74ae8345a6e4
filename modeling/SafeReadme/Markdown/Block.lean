import SafeReadme.Markdown.Label
import SafeReadme.Markdown.RawHtml

/-!
# Blocks

The structure of a document. Inline content is still the text it is written as, with one line end
between its lines.
-/

namespace SafeReadme.Markdown

structure Options where
  tables : Bool
  footnotes : Bool
  strikethrough : Bool
  taskLists : Bool
  deriving DecidableEq, Repr

def Options.extended : Options :=
  ⟨true, true, true, true⟩

def Options.plain : Options :=
  ⟨false, false, false, false⟩

inductive Alignment where
  | unset
  | left
  | center
  | right
  deriving DecidableEq, Repr

inductive Block where
  /-- A paragraph, which may start with a task that is done or not. -/
  | paragraph (task : Option Bool) (content : List Char)
  | heading (level : Nat) (content : List Char)
  | code (info : String) (content : String)
  | html (content : String)
  | divider
  | quote (children : List Block)
  /-- A list of items with the number that it starts with, if it has one. -/
  | list (start : Option Nat) (isTight : Bool) (items : List Block)
  | item (children : List Block)
  | footnote (label : String) (children : List Block)
  | table (columns : List Alignment) (head : List (List Char)) (rows : List (List (List Char)))
  deriving Repr, Inhabited

/-! ## What a line starts with -/

def isDivider : List Char → Bool
  | [] => false
  | c :: cs =>
      (c = '*' || c = '-' || c = '_') && cs.all (fun d => d = c || d = ' ' || d = '\t') &&
        2 ≤ cs.count c

def headingLevel? (cs : List Char) : Option Nat :=
  let level := (cs.takeWhile (· == '#')).length
  if level = 0 || 6 < level then none
  else
    match cs.drop level with
    | [] => some level
    | c :: _ => if isGap c then some level else none

def headingContent (cs : List Char) : List Char :=
  let text := trimGapEnd ((cs.dropWhile (· == '#')).dropWhile isGap)
  let body := (text.reverse.dropWhile (· == '#')).reverse
  match body.getLast? with
  | none => []
  | some c => if body.length < text.length && isGap c then trimGapEnd body else text

def fence? : List Char → Option (Char × Nat)
  | [] => none
  | c :: cs =>
      let count := ((c :: cs).takeWhile (· == c)).length
      if count < 3 || !(c = '\x60' || c = '~') then none
      else if c = '\x60' && ((c :: cs).drop count).contains '\x60' then none
      else some (c, count)

def closesFence (mark : Char) (count : Nat) (cs : List Char) : Bool :=
  let marks := cs.takeWhile (· == mark)
  count ≤ marks.length && (cs.drop marks.length).all (· == ' ')

def underline? : List Char → Option Nat
  | [] => none
  | c :: cs =>
      let level? := if c = '=' then some 1 else if c = '-' then some 2 else none
      if isBlankRest (cs.dropWhile (· == c)) then level? else none

/-- The marker of a list item: the character that tells lists apart, the number, and the length. -/
def listMarker? (cs : List Char) : Option (Char × Nat × Nat) :=
  match cs with
  | [] => none
  | c :: _ =>
      if c = '-' || c = '+' || c = '*' then some (c, 0, 1)
      else
        let digits := (cs.take 9).takeWhile Char.isDigit
        match cs.drop digits.length with
        | d :: _ =>
            if digits.isEmpty || !(d = '.' || d = ')') then none
            else
              some (d, digits.foldl (fun n c => 10 * n + (c.toNat - 0x30)) 0, digits.length + 1)
        | [] => none

/-- Whether a list item starts here that may end a paragraph. A list in the paragraph's own
container has to have content, and a number it starts with has to be 1. -/
def interruptsAsItem (anyItem : Bool) (cs : List Char) : Bool :=
  match listMarker? cs with
  | none => false
  | some (mark, number, width) =>
      let behind := cs.drop width
      match behind with
      | [] => anyItem
      | c :: _ =>
          (c = ' ' || c = '\t') &&
            (anyItem ||
              ((mark = '-' || mark = '+' || mark = '*' || number = 1) && !isBlankRest behind))

def footnoteStart? (cs : List Char) : Option (List Char × List Char) :=
  match cs with
  | '[' :: '^' :: cs =>
      match footnoteLabel? cs with
      | some (label, count) =>
          match cs.drop count with
          | ':' :: rest => some (label, rest)
          | _ => none
      | none => none
  | _ => none

def Options.interrupts (o : Options) (anyItem : Bool) (cs : List Char) : Bool :=
  cs.isEmpty || isDivider cs || (headingLevel? cs).isSome || (fence? cs).isSome ||
    cs.head? == some '>' || interruptsAsItem anyItem cs ||
    (match cs with
      | '<' :: rest => (verbatimEnd? rest).isSome || startsBlockTag rest
      | _ => false) ||
    (o.footnotes && (footnoteStart? cs).isSome)

end SafeReadme.Markdown
