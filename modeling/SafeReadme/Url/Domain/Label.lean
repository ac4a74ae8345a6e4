import SafeReadme.Text.Normal
import SafeReadme.Url.Domain.Joining
import SafeReadme.Url.Domain.Punycode
import SafeReadme.Url.Domain.Replacements

/-!
# Labels

A label of a domain is a text between dots. One with characters outside ASCII is written in Punycode
behind `xn--`.
-/

namespace SafeReadme.Url.Domain

def isAscii (c : Char) : Bool :=
  c.toNat < 0x80

def letterFor? (c : Char) : Option Char := do
  let (first, row) ← Text.Runs.runOf? letterRows c
  (row.toList[c.toNat - first]?).filter (· != '_')

def otherFor? (c : Char) : Option (List Char) :=
  (otherReplacements.lookup c.toNat).map fun codes =>
    (Text.splitAt '+' codes).map fun code =>
      Char.ofNat ((Text.numeral? 16 code.toList).getD 0)

def replacement? (c : Char) : Option (List Char) :=
  if isAscii c then some [c.toLower]
  else
    match letterFor? c, otherFor? c, Text.Runs.valueOf statusRuns c with
    | some letter, _, _ => some [letter]
    | none, some others, _ => some others
    | none, none, "v" => some [c]
    | none, none, "i" => some []
    | none, none, _ => none

def punycodeMark : List Char :=
  "xn--".toList

def maxWritten : Nat :=
  2000

def maxLabel : Nat :=
  1000

/-- The label that stands for itself or is written in Punycode. What is written must be in its final
form, and must need to be written. -/
def label? (written : List Char) : Option (List Char) :=
  match punycodeMark.isPrefixOf? written with
  | none => some written
  | some rest => do
      if !written.all isAscii || maxWritten < rest.length then none
      let label ← Punycode.decode? rest
      if label.all isAscii || punycodeMark.isPrefixOf label || Text.Normal.compose label != label ||
          label.any (fun c => replacement? c != some [c]) then none
      else return label

/-- Whether a label does not begin with a mark, and its joiners stand where they may. -/
def isSound (label : List Char) : Bool :=
  !(label.head?.any Text.Normal.isMark) && joinersFit [] label

def writeLabel? (label : List Char) : Option (List Char) :=
  if label.all isAscii then some label
  else if maxLabel < label.length then none
  else some (punycodeMark ++ Punycode.encode label)

end SafeReadme.Url.Domain
