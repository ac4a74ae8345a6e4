/-!
# Inline content

What stands in a paragraph, a heading or a cell of a table.
-/

namespace SafeReadme.Markdown

inductive Stress where
  | emphasis
  | strong
  | deleted
  deriving DecidableEq, Repr

inductive Inline where
  | text (content : String)
  | code (content : String)
  | html (content : String)
  | softBreak
  | hardBreak
  | stress (kind : Stress) (children : List Inline)
  | link (target title : String) (children : List Inline)
  | mail (address : String)
  | image (source title : String) (children : List Inline)
  | footnote (label : String)
  deriving Repr, Inhabited

/-! ## Emphasis

Runs of `*`, `_` and `~` are matched from left to right: a run that closes takes the nearest open
run of its mark. What stays open, or closes nothing, is text.
-/

inductive Piece where
  | done (inline : Inline)
  | run (mark : Char) (count : Nat) (opens closes : Bool)
  deriving Repr, Inhabited

def marksText (mark : Char) (count : Nat) : Inline :=
  .text (String.ofList (List.replicate count mark))

structure Opener where
  mark : Char
  count : Nat
  /-- The marks that the run had. -/
  length : Nat
  /-- Whether it could have closed, too. -/
  both : Bool
  before : List Inline
  deriving Repr

/-- The content behind the innermost open run, the last first, and the open runs. -/
structure Resolution where
  openers : List Opener
  content : List Inline
  /-- How many of the outermost runs no `~` closes any more. -/
  floor : Nat
  deriving Repr

/-- Puts content into `count` marks, two at a time from the inside. -/
def wrap (mark : Char) : (count : Nat) → List Inline → List Inline
  | 0, children => children
  | 1, children => [.stress (if mark = '~' then .deleted else .emphasis) children]
  | count + 2, children =>
      wrap mark count [.stress (if mark = '~' then .deleted else .strong) children]

namespace Resolution

def giveUp (r : Resolution) (o : Opener) : Resolution :=
  { r with content := r.content ++ marksText o.mark o.count :: o.before }

def giveUpAll (r : Resolution) (openers : List Opener) : Resolution :=
  openers.foldl giveUp r

/-- Whether an open run fits a closing run of `length` marks. Where one of them could do both, the
sum of their lengths must be no multiple of three, unless both lengths are. -/
def fits (mark : Char) (length : Nat) (both : Bool) (o : Opener) : Bool :=
  o.mark = mark && (mark != '~' || o.length = length) &&
    ((!both && !o.both) || (length + o.length) % 3 != 0 || length % 3 == 0)

/-- Closes with `count` marks that are left of a run of `length`; the result counts those that
close nothing. -/
def close (mark : Char) (length : Nat) (both : Bool) :
    (rounds count : Nat) → Resolution → Resolution × Nat
  | 0, count, r => (r, count)
  | rounds + 1, count, r =>
      let reachable := if mark = '~' then r.openers.length - r.floor else r.openers.length
      let inner := (r.openers.take reachable).takeWhile (fun o => !fits mark length both o)
      if inner.length = reachable then
        (if mark = '~' then { r with floor := r.openers.length } else r, count)
      else
        match r.openers.drop inner.length with
        | [] => (r, count)
        | o :: outer =>
            let r := r.giveUpAll inner
            let matched := min count o.count
            let nodes := wrap mark matched r.content.reverse
            let r : Resolution :=
              if matched < o.count then
                ⟨{ o with count := o.count - matched } :: outer, nodes, min r.floor outer.length⟩
              else ⟨outer, nodes ++ o.before, min r.floor outer.length⟩
            if matched < count then close mark length both rounds (count - matched) r
            else (r, 0)

def take (r : Resolution) : Piece → Resolution
  | .done inline => { r with content := inline :: r.content }
  | .run mark count opens closes =>
      let both := opens && closes
      let (r, left) := if closes then r.close mark count both count count else (r, count)
      if left = 0 then r
      else if opens then
        { r with openers := ⟨mark, left, count, both, r.content⟩ :: r.openers, content := [] }
      else { r with content := marksText mark left :: r.content }

end Resolution

def resolveStress (pieces : List Piece) : List Inline :=
  let r := pieces.foldl Resolution.take ⟨[], [], 0⟩
  (r.giveUpAll r.openers).content.reverse

end SafeReadme.Markdown
