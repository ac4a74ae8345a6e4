import SafeReadme.Markdown.Block

/-!
# Rows of tables

A row is cut at every bar that no backslash stands in front of.
-/

namespace SafeReadme.Markdown

structure HeadLine where
  /-- The complete columns, the last first. -/
  columns : List Alignment
  current : Alignment
  atStart : Bool
  hasBar : Bool
  hasDash : Bool
  hasColumnDash : Bool

def HeadLine.step? (h : HeadLine) (c : Char) : Option HeadLine :=
  if c = ' ' then some h
  else if c = ':' then
    let current :=
      match h.atStart, h.current with
      | true, .unset => .left
      | false, .left => .center
      | false, .unset => .right
      | _, current => current
    some { h with current, atStart := false }
  else if c = '-' then some { h with atStart := false, hasDash := true, hasColumnDash := true }
  else if c = '|' then
    if !h.hasColumnDash then none
    else
      some { h with
        columns := h.current :: h.columns, current := .unset, atStart := true, hasBar := true
        hasColumnDash := false }
  else none

def tableColumns? (c : Cursor) : Option (List Alignment) :=
  let (missing, c) := c.skip 4
  if missing = 0 then none
  else
    let (hasBar, cs) := match c.rest with
      | '|' :: cs => (true, cs)
      | cs => (false, cs)
    match cs.foldlM HeadLine.step? ⟨[], .unset, true, hasBar, false, false⟩ with
    | none => none
    | some h =>
        if !h.hasBar || !h.hasDash then none
        else some (if h.atStart then h.columns else h.current :: h.columns).reverse

/-- The positions of bars that cut a row; `previous` is the character in front. -/
def barCount (previous : Char) : List Char → Nat
  | [] => 0
  | c :: cs => (if c = '|' && previous != '\\' then 1 else 0) + barCount c cs

def behindLastBar (previous : Char) (last : List Char) : List Char → List Char
  | [] => last
  | c :: cs => behindLastBar c (if c = '|' && previous != '\\' then cs else last) cs

def headWidth (cs : List Char) : Nat :=
  let bars := barCount ' ' cs
  if bars = 0 then 0
  else
    let bars := if (cs.dropWhile isGap).head? == some '|' then bars - 1 else bars
    if isBlankRest (behindLastBar ' ' [] cs) then bars else bars + 1

def cellEnd (previous : Char) : List Char → Nat
  | [] => 0
  | c :: cs => if c = '|' && previous != '\\' then 0 else 1 + cellEnd c cs

/-- A cell's content: its bars need no backslash any more. -/
def cellContent : List Char → List Char
  | [] => []
  | '\\' :: '|' :: cs => '|' :: cellContent cs
  | c :: cs => c :: cellContent cs

def cellsFrom : (count : Nat) → List Char → List (List Char)
  | 0, _ => []
  | count + 1, cs =>
      let cs := match cs with
        | '|' :: rest => rest
        | _ => cs
      let cs := cs.dropWhile isGap
      if cs.isEmpty then []
      else
        let length := cellEnd ' ' cs
        trimGapEnd (cellContent (cs.take length)) :: cellsFrom count (cs.drop length)

/-- The cells of a row with `width` columns; none if it has nothing but a bar. -/
def rowCells? (width : Nat) (cs : List Char) : Option (List (List Char)) :=
  let cells := cellsFrom width cs
  if cells.isEmpty then none
  else some (cells ++ List.replicate (width - cells.length) [])

end SafeReadme.Markdown
