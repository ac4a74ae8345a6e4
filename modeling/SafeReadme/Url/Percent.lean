/-!
# Percent encoding

`decodeBytes` undoes escapes and leaves a `%` that starts none alone; `escapeBytes` writes every
byte as an escape with upper-case digits.
-/

namespace SafeReadme.Url

def hexValue? (b : UInt8) : Option UInt8 :=
  if 0x30 ≤ b && b ≤ 0x39 then some (b - 0x30)
  else if 0x41 ≤ b && b ≤ 0x46 then some (b - 0x37)
  else if 0x61 ≤ b && b ≤ 0x66 then some (b - 0x57)
  else none

/-- Replaces every `%` that two hexadecimal digits follow, with those digits, by the byte they
name. -/
def decodeBytes : List UInt8 → List UInt8
  | [] => []
  | b :: rest =>
      if b == 0x25 then
        match rest with
        | high :: low :: rest' =>
            match hexValue? high, hexValue? low with
            | some h, some l => (h * 16 + l) :: decodeBytes rest'
            | _, _ => b :: decodeBytes (high :: low :: rest')
        | short => b :: short
      else b :: decodeBytes rest

/-- The text that the escapes of `s` stand for, if its bytes are UTF-8. -/
def decode? (s : String) : Option String :=
  String.fromUTF8? ⟨(decodeBytes s.toUTF8.data.toList).toArray⟩

def hexDigit (n : Nat) : Char :=
  if n < 10 then Char.ofNat (0x30 + n) else Char.ofNat (0x37 + n)

def escapeByte (b : UInt8) : List Char :=
  ['%', hexDigit (b.toNat / 16), hexDigit (b.toNat % 16)]

def escapeChar (c : Char) : List Char :=
  (String.utf8EncodeChar c).flatMap escapeByte

def encode (mustEscape : Char → Bool) (s : String) : String :=
  String.ofList
    (s.toList.flatMap (fun c => if c.toNat < 0x80 && !mustEscape c then [c] else escapeChar c))

end SafeReadme.Url
