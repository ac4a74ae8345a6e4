import SafeReadme.Text.Basic
import SafeReadme.Toml.Value

/-!
# Numbers

Integers have 64 bits and a sign. They can be written in four bases, and single underscores can
stand between digits. A number with a fraction or an exponent is a floating-point number.
-/

namespace SafeReadme.Toml

def moreDigits? (base : Nat) : List Char → Option (List Char × List Char)
  | [] => some ([], [])
  | c :: rest =>
      if Text.isDigit base c then
        (moreDigits? base rest).map fun (digits, rest) => (c :: digits, rest)
      else if c == '_' then
        match rest with
        | d :: _ => if Text.isDigit base d then moreDigits? base rest else none
        | [] => none
      else some ([], c :: rest)

def digits? (base : Nat) : List Char → Option (List Char × List Char)
  | c :: rest => if Text.isDigit base c then moreDigits? base (c :: rest) else none
  | [] => none

/-- Reads the digits of a decimal integer. A zero at the start stands alone. -/
def whole? : List Char → Option (List Char × List Char)
  | '0' :: rest => some (['0'], rest)
  | cs => digits? 10 cs

def integer? (negative : Bool) (magnitude : Nat) : Option Value :=
  if negative then
    if magnitude ≤ Nat.pow 2 63 then some (.integer (-magnitude)) else none
  else if magnitude < Nat.pow 2 63 then some (.integer magnitude)
  else none

/-- Whether `digits` times ten to the power `exponent` is rounded to a binary number of double
precision that is out of range. -/
def overflows (digits : List Char) (exponent : Int) : Bool :=
  let significant := digits.dropWhile (· == '0')
  let size := exponent + significant.length
  if significant.isEmpty || size < 300 then false
  else if 320 < size then true
  else
    match Text.numeral? 10 significant with
    | none => false
    | some n =>
        let bound := Nat.pow 2 1024 - Nat.pow 2 970
        if exponent < 0 then bound * Nat.pow 10 (-exponent).toNat ≤ n
        else bound ≤ n * Nat.pow 10 exponent.toNat

def fraction? : List Char → Option (List Char × List Char)
  | '.' :: rest => digits? 10 rest
  | cs => some ([], cs)

def sign : List Char → Bool × List Char
  | '-' :: rest => (true, rest)
  | '+' :: rest => (false, rest)
  | cs => (false, cs)

def exponent? (cs : List Char) : Option (Int × List Char) :=
  match cs with
  | 'e' :: rest | 'E' :: rest => do
      let (negative, rest) := sign rest
      let (digits, rest) ← digits? 10 rest
      let magnitude ← Text.numeral? 10 digits
      return (if negative then -magnitude else magnitude, rest)
  | _ => some (0, cs)

/-- Reads a decimal number behind its sign. With a fraction or an exponent it is a floating-point
number, which must not be rounded to positive infinity. -/
def decimal? (negative : Bool) (cs : List Char) : Option (Value × List Char) := do
  let (digits, rest) ← whole? cs
  let (fraction, afterFraction) ← fraction? rest
  let (exponent, afterExponent) ← exponent? afterFraction
  if afterExponent.length = rest.length then
    return (← integer? negative (← Text.numeral? 10 digits), rest)
  else if !negative && overflows (digits ++ fraction) (exponent - fraction.length) then none
  else return (.float, afterExponent)

def based? (base : Nat) (cs : List Char) : Option (Value × List Char) := do
  let (digits, rest) ← digits? base cs
  return (← integer? false (← Text.numeral? base digits), rest)

def number? (cs : List Char) : Option (Value × List Char) :=
  match cs with
  | '0' :: 'x' :: rest => based? 16 rest
  | '0' :: 'o' :: rest => based? 8 rest
  | '0' :: 'b' :: rest => based? 2 rest
  | _ =>
      match sign cs with
      | (_, 'i' :: 'n' :: 'f' :: rest) | (_, 'n' :: 'a' :: 'n' :: rest) => some (.float, rest)
      | (negative, rest) => decimal? negative rest

end SafeReadme.Toml
