/-!
# Texts

Blank characters, the fields between separators, numerals, and tables of the properties of
characters.
-/

namespace SafeReadme.Text

/-! ## Blank characters -/

/-- The characters with the Unicode property `White_Space`. -/
def isBlank (c : Char) : Bool :=
  let n := c.toNat
  (0x09 ≤ n && n ≤ 0x0D) || n == 0x20 || n == 0x85 || n == 0xA0 || n == 0x1680 ||
    (0x2000 ≤ n && n ≤ 0x200A) || n == 0x2028 || n == 0x2029 || n == 0x202F ||
    n == 0x205F || n == 0x3000

def dropWhileEnd (p : Char → Bool) (cs : List Char) : List Char :=
  (cs.reverse.dropWhile p).reverse

def trimBy (p : Char → Bool) (cs : List Char) : List Char :=
  dropWhileEnd p (cs.dropWhile p)

def trim (s : String) : String :=
  String.ofList (trimBy isBlank s.toList)

/-! ## Fields

A text is cut at every separator; `joinWith` puts the fields together again.
-/

/-- The fields between the characters that satisfy `isSeparator`; there is always one more field
than there are separators. -/
def fields (isSeparator : Char → Bool) (cs : List Char) : List (List Char) :=
  cs.foldr
    (fun c acc =>
      if isSeparator c then [] :: acc
      else
        match acc with
        | [] => [[c]]
        | first :: rest => (c :: first) :: rest)
    [[]]

def splitAt (separator : Char) (s : String) : List String :=
  (fields (· == separator) s.toList).map String.ofList

def joinWith (separator : String) (parts : List String) : String :=
  String.intercalate separator parts

def breakAt (p : Char → Bool) (cs : List Char) : List Char × List Char :=
  cs.span (fun c => !p c)

/-! ## Numerals -/

def digit? (base : Nat) (c : Char) : Option Nat :=
  let value? :=
    if c.isDigit then some (c.toNat - 0x30)
    else if 'a' ≤ c && c ≤ 'f' then some (c.toNat - 0x57)
    else if 'A' ≤ c && c ≤ 'F' then some (c.toNat - 0x37)
    else none
  value?.filter (· < base)

def isDigit (base : Nat) (c : Char) : Bool :=
  (digit? base c).isSome

/-- The number that the digits write in the given base; no digits write zero. -/
def numeral? (base : Nat) (cs : List Char) : Option Nat :=
  cs.foldlM (fun value c => (digit? base c).map (value * base + ·)) 0

/-! ## Properties of characters

A property is written as words: the first code point of each run in hexadecimal, and the value that
holds from there up to the next run.
-/

namespace Runs

def pairs : List String → List (Nat × String)
  | first :: value :: rest => ((numeral? 16 first.toList).getD 0, value) :: pairs rest
  | _ => []

def read (rows : List String) : List (Nat × String) :=
  pairs (rows.flatMap (splitAt ' '))

def runOf? {α : Type} (runs : List (Nat × α)) (c : Char) : Option (Nat × α) :=
  (runs.takeWhile fun run => run.1 ≤ c.toNat).getLast?

def valueOf (runs : List (Nat × String)) (c : Char) : String :=
  match runOf? runs c with
  | some run => run.2
  | none => ""

end Runs

end SafeReadme.Text
