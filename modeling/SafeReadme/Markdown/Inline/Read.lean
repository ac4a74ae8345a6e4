import SafeReadme.Markdown.Autolink
import SafeReadme.Markdown.Inline
import SafeReadme.Markdown.Label
import SafeReadme.Markdown.RawHtml
import SafeReadme.Text.Basic

/-!
# Reading inline content

Code, HTML and addresses are found from left to right, and brackets are matched on the way. Stress
is resolved afterwards, inside a link and around it apart.
-/

namespace SafeReadme.Markdown

structure References where
  definitions : List Definition
  /-- The labels of the footnotes that are defined; none where footnotes are not read. -/
  footnotes : Option (List String)
  strikethrough : Bool

structure Bracket where
  isImage : Bool
  /-- Whether a link may still start here. -/
  isActive : Bool
  source : List Char
  before : List Piece

structure Reading where
  brackets : List Bracket
  /-- The pieces behind the innermost bracket, the last first. -/
  pieces : List Piece
  pending : List Char
  previous : Char

/-- A code span's text: line ends become spaces, and a space on both sides is dropped. -/
def codeText (cs : List Char) : String :=
  let flat := go cs
  if flat.head? == some ' ' && flat.getLast? == some ' ' && flat.any (· != ' ') then
    String.ofList flat.tail.dropLast
  else String.ofList flat
where
  go : List Char → List Char
    | [] => []
    | '\r' :: '\n' :: cs => ' ' :: go cs
    | c :: cs => (if c = '\n' || c = '\r' then ' ' else c) :: go cs

/-- How far it is to a run of exactly `count` backticks; `run` counts those just read. -/
def closingTicks? (count run : Nat) : List Char → Option Nat
  | [] => if run = count then some 0 else none
  | c :: cs =>
      if c = '\x60' then (closingTicks? count (run + 1) cs).map (· + 1)
      else if run = count then some 0
      else (closingTicks? count 0 cs).map (· + 1)

def mayOpen (mark : Char) (count : Nat) (previous : Char) (next? : Option Char) : Bool :=
  match next? with
  | none => false
  | some next =>
      if Text.isBlank next then false
      else
        (mark = '*' && !Text.isPunctuation next) || (mark = '~' && 1 < count) ||
          Text.isBlank previous || Text.isPunctuation previous

def mayClose (mark : Char) (count : Nat) (previous : Char) (next? : Option Char) : Bool :=
  if Text.isBlank previous then false
  else
    match next? with
    | none => true
    | some next =>
        ((mark = '*' || (mark = '~' && 1 < count)) && !Text.isPunctuation previous) ||
          Text.isBlank next || Text.isPunctuation next

namespace Reading

def push (r : Reading) (c : Char) : Reading :=
  { r with pending := c :: r.pending }

def flush (r : Reading) : Reading :=
  if r.pending.isEmpty then r
  else
    { r with
      pieces := .done (.text (String.ofList r.pending.reverse)) :: r.pieces
      pending := [] }

def add (r : Reading) (piece : Piece) : Reading :=
  let r := r.flush
  { r with pieces := piece :: r.pieces }

def put (r : Reading) (inline : Inline) : Reading :=
  r.add (.done inline)

def asText (b : Bracket) : List Piece :=
  .done (.text (if b.isImage then "![" else "[")) :: b.before

def openBracket (r : Reading) (isImage : Bool) (source : List Char) : Reading :=
  let r := r.flush
  ⟨⟨isImage, true, source, r.pieces⟩ :: r.brackets, [], [], r.previous⟩

def breakLine (r : Reading) : Reading :=
  let text := r.pending.dropWhile isGap
  let isHard := 2 ≤ r.pending.length - text.length
  { r with pending := text }.put (if isHard then .hardBreak else .softBreak)

def flattenOuter (pieces : List Piece) (outer : List Bracket) : List Piece :=
  outer.foldl (fun pieces b => pieces ++ asText b) pieces

def finish (r : Reading) : List Piece :=
  let r := r.flush
  (flattenOuter r.pieces r.brackets).reverse

def linked (r : Reading) (b : Bracket) (target : Target) : Inline :=
  let children := resolveStress r.flush.pieces.reverse
  if b.isImage then .image target.url target.title children
  else .link target.url target.title children

/-- Closes a bracket as a link or an image. No link may go around a link. -/
def closeLinked (r : Reading) (b : Bracket) (outer : List Bracket) (target : Target) : Reading :=
  let outer :=
    if b.isImage then outer
    else outer.map (fun b => if b.isImage then b else { b with isActive := false })
  ⟨outer, .done (r.linked b target) :: b.before, [], r.previous⟩

def closeText (r : Reading) (b : Bracket) (outer : List Bracket) : Reading :=
  let r := r.flush
  ⟨outer, r.pieces ++ asText b, [']'], r.previous⟩

/-- Closes a bracket as a reference to a footnote; the brackets around it are text. -/
def closeFootnote (r : Reading) (b : Bracket) (outer : List Bracket) (label : String) : Reading :=
  let before := if b.isImage then .done (.text "!") :: b.before else b.before
  ⟨[], flattenOuter (.done (.footnote label) :: before) outer, [], r.previous⟩

end Reading

def References.target? (refs : References) (label : List Char) : Option Target :=
  (refs.definitions.find? (fun d => d.key == labelKey label)).map (·.target)

def References.hasFootnote (refs : References) (label : List Char) : Bool :=
  match refs.footnotes with
  | some labels => labels.contains (labelKey label)
  | none => false

def References.footnoteName? (refs : References) (label : List Char) : Option (List Char) :=
  match refs.footnotes, label with
  | some _, '^' :: name => (footnoteLabel? (name ++ [']'])).map (·.1)
  | _, _ => none

def Bracket.label? (b : Bracket) (behind : List Char) : Option (List Char) :=
  let label := b.source.take (b.source.length - behind.length - 1)
  match Markdown.label? (label ++ [']']) with
  | some (label', count) => if count = label.length + 1 then some label' else none
  | none => none

def References.named? (refs : References) (b : Bracket) (cs : List Char) :
    Option (List Char × Nat) :=
  match cs with
  | '[' :: ']' :: _ => (b.label? cs).map (·, 2)
  | '[' :: rest =>
      match label? rest with
      | some (label, count) =>
          if (refs.footnoteName? label).isSome then (b.label? cs).map (·, 0)
          else some (label, count + 1)
      | none => (b.label? cs).map (·, 0)
  | _ => (b.label? cs).map (·, 0)

def References.closeBracket (refs : References) (r : Reading) (cs : List Char) : Reading × Nat :=
  match r.brackets with
  | [] => (r.push ']', 0)
  | b :: outer =>
      if !b.isActive then (r.closeText b outer, 0)
      else
        let inline := match cs with
          | '(' :: rest => inlineTarget? rest
          | _ => none
        match inline with
        | some (target, rest) => (r.closeLinked b outer target, cs.length - rest.length)
        | none =>
            match refs.named? b cs with
            | none => (r.closeText b outer, 0)
            | some (label, count) =>
                match refs.footnoteName? label with
                | some name =>
                    if refs.hasFootnote name then
                      (r.closeFootnote b outer (String.ofList name), 0)
                    else (r.closeText b outer, 0)
                | none =>
                    match refs.target? label with
                    | some target => (r.closeLinked b outer target, count)
                    | none => (r.closeText b outer, 0)

def angled? (cs : List Char) : Option (Inline × List Char) :=
  match uri? cs with
  | some (uri, rest) => some (.link (String.ofList uri) "" [.text (String.ofList uri)], rest)
  | none =>
      match mail? cs with
      | some (address, rest) => some (.mail (String.ofList address), rest)
      | none =>
          match inlineHtml? cs with
          | some rest =>
              some (.html (String.ofList ('<' :: cs.take (cs.length - rest.length))), rest)
          | none => none

/-- Reads a character with those behind it, and how many of these are read with it. -/
def References.step (refs : References) (r : Reading) (c : Char) (cs : List Char) :
    Reading × Nat :=
  if c = '\\' then
    match cs with
    | '\r' :: '\n' :: rest =>
        (r.put .hardBreak, 2 + (rest.takeWhile (fun c => c = ' ' || c = '\t')).length)
    | '\n' :: rest | '\r' :: rest =>
        (r.put .hardBreak, 1 + (rest.takeWhile (fun c => c = ' ' || c = '\t')).length)
    | next :: _ => if escapes cs then (r.push next, 1) else (r.push c, 0)
    | [] => (r.push c, 0)
  else if c = '\x60' then
    let more := (cs.takeWhile (· == '\x60')).length
    match closingTicks? (more + 1) 0 (cs.drop more) with
    | some distance =>
        let content := (cs.drop more).take (distance - (more + 1))
        (r.put (.code (codeText content)), more + distance)
    | none =>
        ({ r with pending := List.replicate (more + 1) '\x60' ++ r.pending }, more)
  else if c = '<' then
    match angled? cs with
    | some (inline, rest) => (r.put inline, cs.length - rest.length)
    | none => (r.push c, 0)
  else if c = '&' then
    match reference? cs with
    | some (text, count) => (r.put (.text (String.ofList text)), count)
    | none => (r.push c, 0)
  else if c = '*' || c = '_' || (c = '~' && refs.strikethrough) then
    let more := (cs.takeWhile (· == c)).length
    let count := more + 1
    let next? := (cs.drop more).head?
    let opens := mayOpen c count r.previous next?
    let closes := mayClose c count r.previous next?
    if (opens || closes) && (c != '~' || count ≤ 2) then (r.add (.run c count opens closes), more)
    else ({ r with pending := List.replicate count c ++ r.pending }, more)
  else if c = '!' then
    match cs with
    | '[' :: rest => (r.openBracket true rest, 1)
    | _ => (r.push c, 0)
  else if c = '[' then (r.openBracket false cs, 0)
  else if c = ']' then refs.closeBracket r cs
  else if c = '\n' || c = '\r' then
    let ending := if c = '\r' && cs.head? == some '\n' then 1 else 0
    let gap := ((cs.drop ending).takeWhile (fun c => c = ' ' || c = '\t')).length
    (r.breakLine, ending + gap)
  else (r.push c, 0)

def References.readFrom (refs : References) (r : Reading) : Nat → List Char → Reading
  | _, [] => r
  | skip + 1, c :: cs => refs.readFrom { r with previous := c } skip cs
  | 0, c :: cs =>
      let (r, skip) := refs.step r c cs
      refs.readFrom { r with previous := c } skip cs

def References.read (refs : References) (cs : List Char) : List Inline :=
  resolveStress (refs.readFrom ⟨[], [], [], ' '⟩ 0 cs).finish

end SafeReadme.Markdown
