import SafeReadme.Html.Reference.Names
import SafeReadme.Html.Reference.Read
import SafeReadme.Text.Punctuation

/-!
# Escapes and character references

A backslash takes the meaning from the punctuation behind it. A character reference needs its
semicolon, and a number in it at most seven decimal or six hexadecimal digits.
-/

namespace SafeReadme.Markdown

open Html (Reference.codeOf Reference.named?)

def charOf (code : Nat) : Char :=
  if code = 0 then '\ufffd' else if h : code.isValidChar then Char.ofNatAux code h else '\ufffd'

def number? (base limit : Nat) (cs : List Char) : Option (List Char × Nat) :=
  let digits := (cs.take limit).takeWhile (Text.isDigit base)
  match digits, cs.drop digits.length with
  | _ :: _, ';' :: _ => some ([charOf (Reference.codeOf base digits)], digits.length + 1)
  | _, _ => none

def reference? : List Char → Option (List Char × Nat)
  | '#' :: c :: cs =>
      if c = 'x' || c = 'X' then (number? 16 6 cs).map (fun (text, count) => (text, count + 2))
      else (number? 10 7 (c :: cs)).map (fun (text, count) => (text, count + 1))
  | cs =>
      let name := cs.takeWhile Char.isAlphanum
      match cs.drop name.length with
      | ';' :: _ =>
          (Reference.named? (String.ofList name)).map (fun text => (text, name.length + 1))
      | _ => none

def escapes : List Char → Bool
  | c :: _ => Text.isAsciiPunctuation c
  | [] => false

/-- Replaces escapes and references; the number counts the characters that are read already. -/
def unescapeFrom : Nat → List Char → List Char
  | _, [] => []
  | skip + 1, _ :: cs => unescapeFrom skip cs
  | 0, c :: cs =>
      if c = '\\' && escapes cs then cs.take 1 ++ unescapeFrom 1 cs
      else if c = '&' then
        match reference? cs with
        | some (text, count) => text ++ unescapeFrom count cs
        | none => c :: unescapeFrom 0 cs
      else if c = '\r' then unescapeFrom 0 cs
      else c :: unescapeFrom 0 cs

def unescape (cs : List Char) : String :=
  String.ofList (unescapeFrom 0 cs)

end SafeReadme.Markdown
