import SafeReadme.Markdown.Block.Table

/-!
# Reading blocks

A line continues the open containers that its start allows and closes the others. What is left of it
opens containers, and then a block that may go on over the next lines.
-/

namespace SafeReadme.Markdown

inductive Container where
  | document
  | quote
  /-- A list with its marker, the number it starts with, and whether it is tight so far. -/
  | list (mark : Char) (number : Nat) (isTight : Bool)
  | item (indent : Nat)
  | footnote (label : String)
  deriving DecidableEq, Repr

def footnoteIndent : Nat := 4

def Container.continue? (k : Container) (c : Cursor) : Option Cursor :=
  let indented := fun indent =>
    let (missing, c) := c.skip indent
    if missing = 0 || c.atEnd then some c else none
  match k with
  | .document | .list _ _ _ => some c
  | .quote =>
      let (_, c) := c.skip 3
      if c.rest.head? == some '>' then some ((c.advance 1).skip 1).2 else none
  | .item indent => indented indent
  | .footnote _ => indented footnoteIndent

def continueAll : List Container → Cursor → Nat × Cursor
  | [], c => (0, c)
  | k :: ks, c =>
      match k.continue? c with
      | some c =>
          let (count, c) := continueAll ks c
          (count + 1, c)
      | none => (0, c)

def inside? (ks : List Container) (line : Line) : Option Cursor :=
  let (count, c) := continueAll ks (.start line.text)
  if count = ks.length then some c else none

/-! ## Blocks of lines -/

/-- Reads fenced code; the result is the lines behind it, too. -/
def readFenced (ks : List Container) (indent : Nat) (mark : Char) (count : Nat) :
    List Line → List Char × List Line
  | [] => ([], [])
  | line :: rest =>
      match inside? ks line with
      | none => ([], line :: rest)
      | some c =>
          let (_, c) := c.skip indent
          let (missing, closer) := c.skip (4 - indent)
          if missing != 0 && closesFence mark count closer.rest then ([], rest)
          else
            let (more, behind) := readFenced ks indent mark count rest
            (c.content ++ line.kept ++ more, behind)

/-- Reads indented code. Empty lines, which `gap` holds, belong to it only if more code follows;
the result says whether it ends with some. -/
def readIndented (ks : List Container) (gap : List Char) :
    List Line → List Char × Bool × List Line
  | [] => ([], !gap.isEmpty, [])
  | line :: rest =>
      match inside? ks line with
      | none => ([], !gap.isEmpty, line :: rest)
      | some c =>
          let (missing, c) := c.skip 4
          if missing != 0 && !c.atEnd then ([], !gap.isEmpty, line :: rest)
          else if isBlankRest c.rest then
            readIndented ks (gap ++ c.content ++ line.ending) rest
          else
            let (more, behind) := readIndented ks [] rest
            (gap ++ c.content ++ line.kept ++ more, behind)

def holds (mark cs : List Char) : Bool :=
  (behind? mark cs).isSome

/-- Reads HTML up to a line that holds `mark`, starting with `line`. -/
def readVerbatim (ks : List Container) (mark : List Char) (text ending : List Char) :
    List Line → List Char × List Line
  | [] => (text ++ ending, [])
  | line :: rest =>
      if holds mark text then (text ++ ending, line :: rest)
      else
        match inside? ks line with
        | none => (text ++ ending, line :: rest)
        | some c =>
            let (more, behind) := readVerbatim ks mark c.content line.kept rest
            (text ++ ending ++ more, behind)

def readHtml (ks : List Container) : List Line → List Char × List Line
  | [] => ([], [])
  | line :: rest =>
      match inside? ks line with
      | none => ([], line :: rest)
      | some c =>
          if isBlankRest c.rest then ([], line :: rest)
          else
            let (more, behind) := readHtml ks rest
            (c.content ++ line.kept ++ more, behind)

/-! ## Paragraphs -/

inductive Continuation where
  | stop
  | underline (level : Nat)
  | text (content : List Char)

def tableUnder? (o : Options) (ks : List Container) (head : List Char) (rest : List Line) :
    Option (List Alignment) :=
  if !o.tables then none
  else
    match rest with
    | [] => none
    | line :: _ =>
        match (inside? ks line).bind tableColumns? with
        | none => none
        | some columns =>
            if headWidth head = columns.length && barCount ' ' head != 0 then some columns else none

/-- What `line` does to a paragraph, `rest` being the lines behind it. -/
def continuation (o : Options) (ks : List Container) (line : Line) (rest : List Line) :
    Continuation :=
  let (count, c) := continueAll ks (.start line.text)
  let isInside := count == ks.length
  let (missing, inner) := c.skip 4
  let underline := if isInside && missing != 0 then underline? inner.rest else none
  match underline with
  | some level => .underline level
  | none =>
      if missing != 0 && (o.interrupts (!isInside) inner.rest ||
          (isInside && (tableUnder? o ks inner.rest rest).isSome)) then .stop
      else if c.skipAll.atEnd then .stop
      else .text c.rest

/-- The text of a paragraph whose last line so far ends with `ending`, behind that line, and the
level of the heading that it turns out to be. -/
def readText (o : Options) (ks : List Container) (ending : List Char) :
    List Line → List Char × Option Nat × List Line
  | [] => ([], none, [])
  | line :: rest =>
      match continuation o ks line rest with
      | .stop => ([], none, line :: rest)
      | .underline level => ([], some level, rest)
      | .text content =>
          let (more, result) := readText o ks line.ending rest
          (ending ++ content ++ more, result)

def textLines (o : Options) (ks : List Container) : List Line → List Line
  | [] => []
  | line :: rest =>
      match continuation o ks line rest with
      | .text content => ⟨(Cursor.start content).skipAll.rest, line.ending⟩ :: textLines o ks rest
      | _ => []

def joinLines (ls : List Line) : List Char :=
  ls.flatMap (fun line => line.text ++ line.ending)

def leadingDefinitions (found : List Definition) :
    (count : Nat) → List Char → List Definition × List Char
  | 0, cs => (found, cs)
  | count + 1, cs =>
      if cs.head? != some '[' then (found, cs)
      else
        match definition? cs with
        | none => (found, cs)
        | some (definition, behind) => leadingDefinitions (definition :: found) count behind

/-- Adds the definitions at the start of the paragraph that `first` starts. The result is all
definitions, the last first, and the line of the paragraph that follows them, if there is one. -/
def readDefinitions (o : Options) (ks : List Container) (found : List Definition) (first : Line)
    (rest : List Line) : List Definition × Option Line × List Line :=
  if first.text.head? != some '[' then (found, some first, rest)
  else
    let paragraph := first :: textLines o ks rest
    let (found, behind) := leadingDefinitions found paragraph.length (joinLines paragraph)
    let used := paragraph.length - (lines behind).length
    match paragraph.drop used with
    | [] => (found, none, rest.drop (used - 1))
    | next :: _ => (found, some next, rest.drop used)

def readRows (o : Options) (ks : List Container) (width : Nat) :
    List Line → List (List (List Char)) × List Line
  | [] => ([], [])
  | line :: rest =>
      match inside? ks line with
      | none => ([], line :: rest)
      | some c =>
          let cs := c.skipAll.rest
          if o.interrupts true cs then ([], line :: rest)
          else
            match rowCells? width cs with
            | none => ([], line :: rest)
            | some cells =>
                let (rows, behind) := readRows o ks width rest
                (cells :: rows, behind)

def readParagraph (o : Options) (ks : List Container) (task : Option Bool) (first : Line)
    (rest : List Line) : Block × List Line :=
  match tableUnder? o ks first.text rest with
  | some columns =>
      match rowCells? columns.length first.text with
      | some head =>
          let (rows, behind) := readRows o ks columns.length (rest.drop 1)
          (.table columns head rows, behind)
      | none => (.paragraph task first.text, rest)
  | none =>
      match readText o ks first.ending rest with
      | (more, none, behind) => (.paragraph task (trimGapEnd (first.text ++ more)), behind)
      | (more, some level, behind) => (.heading level (trimGapEnd (first.text ++ more)), behind)

/-! ## Documents -/

structure Frame where
  container : Container
  children : List Block
  deriving Repr

structure Outline where
  /-- The open containers, the innermost first. -/
  frames : List Frame
  definitions : List Definition
  footnotes : List String
  afterGap : Bool
  /-- Whether the last line opened an item and held nothing else. -/
  inEmptyItem : Bool
  /-- The task that the next paragraph starts with. -/
  task : Option Bool

def Frame.toBlock (f : Frame) : Block :=
  let children := f.children.reverse
  match f.container with
  | .document | .quote => .quote children
  | .list mark number isTight =>
      .list (if mark = '.' || mark = ')' then some number else none) isTight children
  | .item _ => .item children
  | .footnote label => .footnote label children

namespace Outline

def empty : Outline :=
  ⟨[⟨.document, []⟩], [], [], false, false, none⟩

def containers (d : Outline) : List Container :=
  (d.frames.map Frame.container).reverse

def add (d : Outline) (block : Block) : Outline :=
  match d.frames with
  | [] => d
  | f :: outer => { d with frames := { f with children := block :: f.children } :: outer }

def openContainer (d : Outline) (k : Container) : Outline :=
  { d with frames := ⟨k, []⟩ :: d.frames }

def close (d : Outline) : Outline :=
  match d.frames with
  | f :: g :: outer => { d with frames := g :: outer }.add f.toBlock
  | _ => d

def closeMany : Nat → Outline → Outline
  | 0, d => d
  | count + 1, d => closeMany count d.close

def inList (d : Outline) : Bool :=
  match d.frames with
  | ⟨.list _ _ _, _⟩ :: _ => true
  | _ => false

def loosen : List Frame → List Frame
  | ⟨.list mark number _, children⟩ :: outer => ⟨.list mark number false, children⟩ :: outer
  | frames => frames

/-- Ends a list before a block that is no item of it. A block behind an empty line makes the list
loose that it is in an item of. -/
def endList (d : Outline) : Outline :=
  let d := if d.inList then d.close else d
  let frames :=
    match d.afterGap, d.frames with
    | true, f :: outer => f :: loosen outer
    | _, frames => frames
  { d with frames, afterGap := false, inEmptyItem := false }

def continueList (d : Outline) (mark : Char) (number : Nat) : Outline :=
  let goesOn := match d.frames with
    | ⟨.list own _ _, _⟩ :: _ => own == mark
    | _ => false
  if goesOn then
    let frames := if d.afterGap then loosen d.frames else d.frames
    { d with frames, afterGap := false, inEmptyItem := false }
  else d.endList.openContainer (.list mark number true)

/-- Notes an empty line. An item may start with one empty line, not with two. -/
def gap (d : Outline) : Outline :=
  match d.frames with
  | ⟨.quote, _⟩ :: _ => d
  | ⟨.item _, _⟩ :: _ =>
      let d := if d.inEmptyItem then d.close else d
      { d with afterGap := true, inEmptyItem := false }
  | _ => { d with afterGap := true }

def taskBox? (c : Cursor) : Option (Bool × Cursor) :=
  let (_, c) := c.skip 3
  match c.rest with
  | '[' :: mark :: ']' :: space :: _ =>
      if !isGap space then none
      else if isGap mark then some (false, c.advance 3)
      else if mark = 'x' || mark = 'X' then some (true, c.advance 3)
      else none
  | _ => none

/-- The marker of an item at the cursor, which `outer` columns stand in front of: the container and
what is left of the line. -/
def itemStart? (outer : Nat) (c : Cursor) : Option (Char × Nat × Container × Cursor) :=
  match listMarker? c.rest with
  | none => none
  | some (mark, number, width) =>
      if isDivider c.rest then none
      else
        let (missing, behind) := (c.advance width).skip 1
        if missing != 0 && !behind.atEnd then none
        else
          let indent := outer + width + 1
          if isBlankRest behind.rest then some (mark, number, .item indent, behind)
          else
            let (more, content) := behind.skipUpTo 4
            if more < 4 then some (mark, number, .item (indent + more), content)
            else some (mark, number, .item indent, behind)

inductive Opening where
  | block (c : Cursor)
  | nothing

def openAll (o : Options) : (count : Nat) → Cursor → Outline → Outline × Opening
  | 0, c, d => (d, .block c)
  | count + 1, c, d =>
      let (outer, inner) := c.skipUpTo 4
      if outer = 4 then (d, .block c)
      else
        match if o.footnotes then footnoteStart? inner.rest else none with
        | some (label, rest) =>
            let d := d.endList
            let d := match d.frames with
              | ⟨.footnote _, _⟩ :: _ => d.close
              | _ => d
            let d := { d with footnotes := labelKey label :: d.footnotes }
            openAll o count (.start rest) (d.openContainer (.footnote (String.ofList label)))
        | none =>
            match itemStart? outer inner with
            | some (mark, number, item, c) =>
                let d := (d.continueList mark number).openContainer item
                if isBlankRest c.rest then ({ d with inEmptyItem := true }, .nothing)
                else
                  match if o.taskLists then taskBox? c else none with
                  | some (isDone, c) =>
                      if isBlankRest c.rest then
                        ({ d.add (.paragraph (some isDone) []) with inEmptyItem := true }, .nothing)
                      else openAll o count c { d with task := some isDone }
                  | none => openAll o count c d
            | none =>
                if inner.rest.head? == some '>' then
                  openAll o count ((inner.advance 1).skip 1).2 (d.endList.openContainer .quote)
                else (d, .block c)

def readBlock (o : Options) (d : Outline) (c : Cursor) (line : Line) (rest : List Line) :
    Outline × List Line :=
  let d := d.endList
  let task := d.task
  let d := { d with task := none }
  let ks := d.containers
  let (indent, inner) := c.skipUpTo 4
  let cs := inner.rest
  let html := List.replicate indent ' ' ++ cs
  if indent = 4 then
    let (more, endsInGap, behind) := readIndented ks [] rest
    let text := inner.content ++ line.kept ++ more
    ({ d.add (.code "" (String.ofList text)) with afterGap := endsInGap }, behind)
  else
    let verbatim := if cs.head? == some '<' then verbatimEnd? cs.tail else none
    match verbatim with
    | some mark =>
        let (text, behind) := readVerbatim ks mark html line.kept rest
        (d.add (.html (String.ofList text)), behind)
    | none =>
        if cs.head? == some '<' && (startsBlockTag cs.tail || isLoneTag cs.tail) then
          let (more, behind) := readHtml ks rest
          (d.add (.html (String.ofList (html ++ line.kept ++ more))), behind)
        else if isDivider cs then (d.add .divider, rest)
        else
          match headingLevel? cs with
          | some level => (d.add (.heading level (headingContent cs)), rest)
          | none =>
              match fence? cs with
              | some (mark, count) =>
                  let info := trimGapEnd ((cs.drop count).dropWhile isGap)
                  let (text, behind) := readFenced ks indent mark count rest
                  (d.add (.code (unescape info) (String.ofList text)), behind)
              | none =>
                  match readDefinitions o ks d.definitions ⟨cs, line.ending⟩ rest with
                  | (definitions, none, behind) => ({ d with definitions }, behind)
                  | (definitions, some first, behind) =>
                      let (block, behind) := readParagraph o ks task first behind
                      ({ d with definitions }.add block, behind)

def readLine (o : Options) (d : Outline) (line : Line) (rest : List Line) :
    Outline × List Line :=
  let (count, c) := continueAll d.containers (.start line.text)
  let d := closeMany (d.frames.length - count) d
  match openAll o (line.text.length + 1) c d with
  | (d, .nothing) => (d, rest)
  | (d, .block c) => if isBlankRest c.rest then (d.gap, rest) else d.readBlock o c line rest

def readLines (o : Options) : (count : Nat) → Outline → List Line → Outline
  | 0, d, _ | _, d, [] => d
  | count + 1, d, line :: rest =>
      let (d, rest) := readLine o d line rest
      readLines o count d rest

def read (o : Options) (text : String) : Outline :=
  let ls := lines text.toList
  let d := readLines o ls.length empty ls
  closeMany d.frames.length d

def blocks (d : Outline) : List Block :=
  match d.frames with
  | f :: _ => f.children.reverse
  | [] => []

end Outline

end SafeReadme.Markdown
