import SafeReadme.Markdown.Escape
import SafeReadme.Markdown.Line
import SafeReadme.Text.Fold

/-!
# Labels, targets and titles

The parts of links and of their definitions.
-/

namespace SafeReadme.Markdown

def maxLabel : Nat := 999

def squeeze (cs : List Char) : List Char :=
  let words := cs.foldr
    (fun c words =>
      if isWhite c then [] :: words
      else
        match words with
        | [] => [[c]]
        | word :: rest => (c :: word) :: rest)
    [[]]
  (words.filter (fun word => !word.isEmpty)).intersperse [' '] |>.flatten

def labelEnd? : (skip : Nat) → List Char → Option Nat
  | _, [] => none
  | skip + 1, _ :: cs => (labelEnd? skip cs).map (· + 1)
  | 0, c :: cs =>
      if c = ']' then some 0
      else if c = '[' then none
      else (labelEnd? (if c = '\\' then 1 else 0) cs).map (· + 1)

def label? (cs : List Char) : Option (List Char × Nat) :=
  match labelEnd? 0 cs with
  | some count =>
      let label := cs.take count
      if maxLabel < count || label.all isWhite then none else some (label, count + 1)
  | none => none

/-- What two labels have in common if they name the same. -/
def labelKey (label : List Char) : String :=
  Text.fold (String.ofList (squeeze label))

def footnoteLabel? (cs : List Char) : Option (List Char × Nat) :=
  match label? cs with
  | some (label, count) =>
      if label.any (fun c => c = '\n' || c = '\r') then none else some (squeeze label, count)
  | none => none

def pointedTarget? : (skip : Nat) → List Char → Option Nat
  | _, [] => none
  | skip + 1, _ :: cs => (pointedTarget? skip cs).map (· + 1)
  | 0, c :: cs =>
      if c = '>' then some 0
      else if c = '\n' || c = '\r' || c = '<' then none
      else (pointedTarget? (if c = '\\' && escapes cs then 1 else 0) cs).map (· + 1)

/-- How many open parentheses there may be where another one opens in a target. -/
def maxNesting : Nat := 32

/-- Reads a target up to white space or a closing parenthesis that nothing opens. -/
def bareTarget? : (skip nested : Nat) → List Char → Option Nat
  | _, nested, [] => if nested = 0 then some 0 else none
  | skip + 1, nested, _ :: cs => (bareTarget? skip nested cs).map (· + 1)
  | 0, nested, c :: cs =>
      if c ≤ ' ' || (c = ')' && nested = 0) then if nested = 0 then some 0 else none
      else if c = '(' then
        if maxNesting < nested then none else (bareTarget? 0 (nested + 1) cs).map (· + 1)
      else if c = ')' then (bareTarget? 0 (nested - 1) cs).map (· + 1)
      else (bareTarget? (if c = '\\' && escapes cs then 1 else 0) nested cs).map (· + 1)

def target? (cs : List Char) : Option (List Char × List Char) :=
  match cs with
  | '<' :: cs => (pointedTarget? 0 cs).map (fun count => (cs.take count, cs.drop (count + 1)))
  | cs => (bareTarget? 0 0 cs).map (fun count => (cs.take count, cs.drop count))

/-- Reads a title up to its closing mark, `done` being what was read of it, backwards. -/
def titleFrom? (start close : Char) (done : List Char) :
    (skip : Nat) → List Char → Option (String × List Char)
  | _, [] => none
  | skip + 1, _ :: cs => titleFrom? start close done skip cs
  | 0, c :: cs =>
      if c = close then some (String.ofList done.reverse, cs)
      else if c = start then none
      else if c = '\n' then
        titleFrom? start close ('\n' :: done)
          (cs.takeWhile (fun c => c = ' ' || c = '\t')).length cs
      else if c = '\r' then
        if cs.head? == some '\n' then titleFrom? start close done 0 cs
        else
          titleFrom? start close ('\n' :: done)
            (cs.takeWhile (fun c => c = ' ' || c = '\t')).length cs
      else if c = '&' then
        match reference? cs with
        | some (text, count) => titleFrom? start close (text.reverse ++ done) count cs
        | none => titleFrom? start close (c :: done) 0 cs
      else if c = '\\' && escapes cs then titleFrom? start close ((cs.take 1) ++ done) 1 cs
      else titleFrom? start close (c :: done) 0 cs

def title? : List Char → Option (String × List Char)
  | [] => none
  | c :: cs =>
      if c = '(' then titleFrom? '(' ')' [] 0 cs
      else if c = '"' || c = '\x27' then titleFrom? c c [] 0 cs
      else none

def dropSeparator (cs : List Char) : List Char :=
  match cs.dropWhile isGap with
  | '\r' :: '\n' :: cs => cs.dropWhile isGap
  | '\n' :: cs => cs.dropWhile isGap
  | '\r' :: cs => cs.dropWhile isGap
  | cs => cs

structure Target where
  url : String
  title : String
  deriving DecidableEq, Repr

def inlineTarget? (cs : List Char) : Option (Target × List Char) := do
  let (url, rest) ← target? (dropSeparator cs)
  let rest := dropSeparator rest
  let (title, rest) :=
    match title? rest with
    | some (title, rest) => (title, dropSeparator rest)
    | none => ("", rest)
  match rest with
  | ')' :: rest => some (⟨unescape url, title⟩, rest)
  | _ => none

/-! ## Definitions -/

/-- White space between the parts of a definition: what follows it, and the line ends in it. -/
def definitionGap? (cs : List Char) : Option (List Char × Nat) :=
  let rest := dropSeparator cs
  match rest with
  | '\n' :: _ | '\r' :: _ => none
  | _ =>
      let gap := cs.take (cs.length - rest.length)
      some (rest, if gap.any (fun c => c = '\n' || c = '\r') then 1 else 0)

def lineEnd? (cs : List Char) : Option (List Char) :=
  match cs.dropWhile isGap with
  | [] => some []
  | '\r' :: '\n' :: rest => some rest
  | '\n' :: rest | '\r' :: rest => some rest
  | _ => none

structure Definition where
  key : String
  target : Target
  deriving DecidableEq, Repr

def definition? (cs : List Char) : Option (Definition × List Char) := do
  let '[' :: cs := cs | none
  let (label, count) ← label? cs
  let ':' :: cs := cs.drop count | none
  let (cs, _) ← definitionGap? cs
  let (url, behind) ← target? cs
  if behind.length = cs.length then none
  else
    let define := fun title => (⟨labelKey label, ⟨unescape url, title⟩⟩ : Definition)
    let bare := (lineEnd? behind).map (fun rest => (define "", rest))
    match definitionGap? behind with
    | none => bare
    | some (rest, breaks) =>
        if rest.length = behind.length && breaks = 0 then bare
        else
          match title? rest with
          | none => bare
          | some (title, rest) =>
              match lineEnd? rest with
              | some rest => some (define title, rest)
              | none => bare

end SafeReadme.Markdown
