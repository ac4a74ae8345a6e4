import SafeReadme.Text.Normal.Tables

/-!
# Composed form

Two texts that look the same because letters and marks are composed in one and apart in the other
have one composed form: all is taken apart, marks are put in order, and what can be composed is.
-/

namespace SafeReadme.Text.Normal

def combiningClass (c : Char) : Nat :=
  (numeral? 10 (Runs.valueOf classRuns c).toList).getD 0

def isMark (c : Char) : Bool :=
  Runs.valueOf markRuns c == "m"

def inPairs : List Char → List (Char × Char)
  | letter :: composed :: rest => (letter, composed) :: inPairs rest
  | _ => []

def composites : List (Char × Char × Char) :=
  compositeRows.flatMap fun (mark, row) =>
    (inPairs row.toList).map fun (letter, composed) => (composed, letter, Char.ofNat mark)

/-! ## Hangul syllables

A syllable is a leading consonant, a vowel and perhaps a trailing consonant, and its code point is
computed from theirs.
-/

def hangulFirst : Nat := 0xAC00
def leadFirst : Nat := 0x1100
def vowelFirst : Nat := 0x1161
/-- The code point before the first trailing consonant: a syllable may have none. -/
def trailFirst : Nat := 0x11A7
def leadCount : Nat := 19
def vowelCount : Nat := 21
def trailCount : Nat := 28

def splitHangul? (c : Char) : Option (List Char) :=
  let index := c.toNat - hangulFirst
  if hangulFirst ≤ c.toNat && index < leadCount * vowelCount * trailCount then
    let trail := index % trailCount
    some (Char.ofNat (leadFirst + index / (vowelCount * trailCount)) ::
      Char.ofNat (vowelFirst + index / trailCount % vowelCount) ::
      if trail = 0 then [] else [Char.ofNat (trailFirst + trail)])
  else none

def joinHangul? (a b : Char) : Option Char :=
  let lead := a.toNat - leadFirst
  let vowel := b.toNat - vowelFirst
  let index := a.toNat - hangulFirst
  let trail := b.toNat - trailFirst
  if leadFirst ≤ a.toNat && lead < leadCount && vowelFirst ≤ b.toNat && vowel < vowelCount then
    some (Char.ofNat (hangulFirst + (lead * vowelCount + vowel) * trailCount))
  else if hangulFirst ≤ a.toNat && index < leadCount * vowelCount * trailCount &&
      index % trailCount = 0 && trailFirst < b.toNat && trail < trailCount then
    some (Char.ofNat (a.toNat + trail))
  else none

/-! ## Taking apart and composing -/

/-- Takes a character apart. No letter is composed of more than `depth` marks and a letter. -/
def decompose : (depth : Nat) → Char → List Char
  | 0, c => [c]
  | depth + 1, c =>
      match splitHangul? c, composites.lookup c with
      | some parts, _ => parts
      | none, some (letter, mark) => decompose depth letter ++ [mark]
      | none, none => [c]

def insertMark (mark : Nat × Char) : List (Nat × Char) → List (Nat × Char)
  | [] => [mark]
  | last :: before =>
      if mark.1 < last.1 then last :: insertMark mark before else mark :: last :: before

/-- Orders the marks behind every letter by their classes; marks of one class keep their order. -/
def order (cs : List Char) : List (Nat × Char) :=
  (cs.foldl
    (fun reversed c =>
      let item := (combiningClass c, c)
      if item.1 = 0 then item :: reversed else insertMark item reversed)
    []).reverse

def join? (a b : Char) : Option Char :=
  (joinHangul? a b).or ((composites.find? fun e => e.2 == (a, b)).map (·.1))

structure Composing where
  letter : Option Char := none
  behind : List (Nat × Char) := []
  /-- What is complete, in reverse. -/
  before : List Char := []

def Composing.flush (s : Composing) : List Char :=
  s.behind.map (·.2) ++ s.letter.toList ++ s.before

/-- Adds a character: to the letter if nothing of its class or of a higher one stands between. -/
def Composing.add (s : Composing) (item : Nat × Char) : Composing :=
  let isBlocked :=
    match s.behind with
    | [] => false
    | last :: _ => item.1 ≤ last.1
  match if isBlocked then none else s.letter.bind (join? · item.2) with
  | some composed => { s with letter := some composed }
  | none =>
      if item.1 = 0 then ⟨some item.2, [], s.flush⟩
      else { s with behind := item :: s.behind }

def compose (cs : List Char) : List Char :=
  ((order (cs.flatMap (decompose 4))).foldl Composing.add {}).flush.reverse

end SafeReadme.Text.Normal
