import SafeReadme.Html.Reference.Names
import SafeReadme.Text.Basic

/-!
# Reading character references

A reference names characters by a word or by a number. `read?` looks at the text behind an `&` and
says what stands for it and how much of the text belongs to it.
-/

namespace SafeReadme.Html.Reference

structure Read where
  text : List Char
  /-- How many characters behind the `&` belong to it. -/
  length : Nat
  terminated : Bool
  deriving DecidableEq, Repr

/-- The characters that stand in place of the C1 controls from 0x80 on; 0 keeps the control. -/
def c1Replacements : List Nat :=
  [0x20AC, 0, 0x201A, 0x0192, 0x201E, 0x2026, 0x2020, 0x2021,
    0x02C6, 0x2030, 0x0160, 0x2039, 0x0152, 0, 0x017D, 0,
    0, 0x2018, 0x2019, 0x201C, 0x201D, 0x2022, 0x2013, 0x2014,
    0x02DC, 0x2122, 0x0161, 0x203A, 0x0153, 0, 0x017E, 0x0178]

/-- The character that a number stands for. Zero, surrogates and numbers out of range stand for the
replacement character. -/
def charOfCode (code : Nat) : Char :=
  if code = 0 || code > 0x10FFFF || (0xD800 ≤ code && code ≤ 0xDFFF) then '\ufffd'
  else if 0x80 ≤ code && code ≤ 0x9F then
    match c1Replacements[code - 0x80]? with
    | some replacement => Char.ofNat (if replacement = 0 then code else replacement)
    | none => Char.ofNat code
  else Char.ofNat code

/-- The number that digits write; beyond the last code point it grows no further. -/
def codeOf (base : Nat) (digits : List Char) : Nat :=
  digits.foldl (fun value c => min 0x110000 (value * base + (Text.digit? base c).getD 0)) 0

def numeric? (base skipped : Nat) (cs : List Char) : Option Read :=
  let digits := cs.takeWhile (Text.isDigit base)
  if digits.isEmpty then none
  else
    let terminated := (cs.drop digits.length).head? == some ';'
    some {
      text := [charOfCode (codeOf base digits)]
      length := skipped + digits.length + if terminated then 1 else 0
      terminated }

def longestUnterminated? (word : List Char) : Nat → Option Read
  | 0 => none
  | n + 1 =>
      match unterminated? (String.ofList (word.take (n + 1))) with
      | some text => some ⟨text, (word.take (n + 1)).length, false⟩
      | none => longestUnterminated? word n

/-- Reads a named reference. In an attribute value, a name without a semicolon is none if a letter,
a digit or `=` follows it. -/
def named (inValue : Bool) (cs : List Char) : Option Read :=
  let word := cs.takeWhile Char.isAlphanum
  let rest := cs.drop word.length
  let whole? :=
    if rest.head? == some ';' then
      (named? (String.ofList word)).map (⟨·, word.length + 1, true⟩)
    else none
  match whole? with
  | some read => some read
  | none =>
      match longestUnterminated? word 6 with
      | none => none
      | some read =>
          match cs[read.length]? with
          | some c => if inValue && (c == '=' || c.isAlphanum) then none else some read
          | none => some read

def read? (inValue : Bool) : List Char → Option Read
  | '#' :: 'x' :: cs | '#' :: 'X' :: cs => numeric? 16 2 cs
  | '#' :: cs => numeric? 10 1 cs
  | cs => named inValue cs

end SafeReadme.Html.Reference
