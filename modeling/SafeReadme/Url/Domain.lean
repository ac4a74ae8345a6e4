import SafeReadme.Text.Basic
import SafeReadme.Url.Domain.Direction
import SafeReadme.Url.Domain.Label

/-!
# Domains in ASCII form

A domain can have characters of all scripts. In addresses it is written in ASCII, and domains that
differ only in case or in characters that mean the same are written alike.
-/

namespace SafeReadme.Url.Domain

def isForbidden (c : Char) : Bool :=
  c.toNat ≤ 0x20 || c.toNat == 0x7F || "#%/:<>?@[\\]^|".toList.contains c

def labels (name : List Char) : List (List Char) :=
  Text.fields (· == '.') name

def isPlain (name : List Char) : Bool :=
  name.all isAscii && !(labels name).any punycodeMark.isPrefixOf

/-- The labels of a domain in their final form, if all of them can be in one domain. -/
def readLabels? (name : List Char) : Option (List (List Char)) := do
  let replaced ← name.mapM replacement?
  let found ← (labels (Text.Normal.compose replaced.flatten)).mapM label?
  if found.all isSound && (!found.any isBackward || found.all keepsDirection) then found else none

/-- The ASCII form of a domain, before it is judged what characters are in it. -/
def write? (name : List Char) : Option (List Char) :=
  if isPlain (name.map Char.toLower) then some (name.map Char.toLower)
  else do
    let written ← (← readLabels? name).mapM writeLabel?
    return List.intercalate ['.'] written

def toAscii? (name : List Char) : Option (List Char) := do
  let written ← write? name
  if written.any isForbidden then none else written

end SafeReadme.Url.Domain
