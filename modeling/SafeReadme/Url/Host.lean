import SafeReadme.Text.Basic
import SafeReadme.Url.Domain
import SafeReadme.Url.Percent

/-!
# Hosts

The host of a web address is a domain, an IPv4 address or an IPv6 address in brackets. A domain is
percent-decoded and brought into its ASCII form first.
-/

namespace SafeReadme.Url

/-! ## IPv4 addresses

A host whose last label is a number is an IPv4 address or no host at all. The numbers are decimal,
octal (leading `0`) or hexadecimal (leading `0x`), and the last one fills all bytes that are left.
-/

namespace Ipv4

def part? : List Char → Option Nat
  | [] => none
  | '0' :: 'x' :: digits | '0' :: 'X' :: digits => Text.numeral? 16 digits
  | '0' :: c :: digits => Text.numeral? 8 (c :: digits)
  | digits => Text.numeral? 10 digits

/-- The labels of a host, without the empty one after a final dot. -/
def labels (host : List Char) : List (List Char) :=
  let all := Text.fields (· == '.') host
  if all.length > 1 && all.getLast? == some [] then all.dropLast else all

def endsInNumber (host : List Char) : Bool :=
  match (labels host).getLast? with
  | none => false
  | some label => (!label.isEmpty && label.all Char.isDigit) || (part? label).isSome

/-- The address that the parts write: all but the last are single bytes. -/
def ofParts? (parts : List Nat) : Option Nat :=
  match parts.getLast? with
  | none => none
  | some last =>
      let firsts := parts.dropLast
      let limit := Nat.pow 256 (4 - firsts.length)
      if parts.length > 4 || firsts.any (· > 255) || last ≥ limit then none
      else some (firsts.foldr (fun byte acc => byte * Nat.pow 256 3 + acc / 256) 0 + last)

def parse? (host : List Char) : Option Nat := do
  ofParts? (← (labels host).mapM part?)

def print (address : Nat) : String :=
  Text.joinWith "."
    ([24, 16, 8, 0].map (fun shift => toString (address / Nat.pow 2 shift % 256)))

end Ipv4

/-! ## IPv6 addresses

An address is eight pieces of 16 bits. In writing, one run of zero pieces may be left out as `::`,
and the last two pieces may be written as an IPv4 address. `print` leaves out the first of the
longest runs of two or more zero pieces.
-/

namespace Ipv6

/-- What has been read of an address: the pieces so far in reverse, and how many of them stand
before the gap. -/
structure Partial where
  pieces : List Nat := []
  gap : Option Nat := none

def dottedByte? (cs : List Char) : Option Nat :=
  match cs with
  | [] => none
  | '0' :: _ :: _ => none
  | _ => (Text.numeral? 10 cs).filter (· ≤ 255)

def dotted? (cs : List Char) : Option (Nat × Nat) :=
  match (Text.fields (· == '.') cs).mapM dottedByte? with
  | some [a, b, c, d] => some (a * 256 + b, c * 256 + d)
  | _ => none

/-- Reads pieces up to the end of the text. Every round reads at least one character. -/
def read : (fuel : Nat) → Partial → List Char → Option Partial
  | _, p, [] => some p
  | 0, _, _ => none
  | fuel + 1, p, c :: cs =>
      if p.pieces.length ≥ 8 then none
      else if c == ':' then
        if p.gap.isSome then none
        else read fuel ⟨0 :: p.pieces, some (p.pieces.length + 1)⟩ cs
      else
        let digits := ((c :: cs).take 4).takeWhile (Text.isDigit 16)
        let rest := (c :: cs).drop digits.length
        match Text.numeral? 16 digits, rest with
        | some value, [] => some { p with pieces := value :: p.pieces }
        | some value, ':' :: after =>
            if after.isEmpty then none
            else read fuel { p with pieces := value :: p.pieces } after
        | some _, '.' :: _ =>
            if digits.isEmpty || p.pieces.length > 6 then none
            else do
              let (high, low) ← dotted? (c :: cs)
              some { p with pieces := low :: high :: p.pieces }
        | _, _ => none

def Partial.complete? (p : Partial) : Option (List Nat) :=
  let pieces := p.pieces.reverse
  match p.gap with
  | some n => some (pieces.take n ++ List.replicate (8 - pieces.length) 0 ++ pieces.drop n)
  | none => if pieces.length = 8 then some pieces else none

def parse? (cs : List Char) : Option (List Nat) := do
  let start ← match cs with
    | ':' :: ':' :: rest => some (⟨[0], some 1⟩, rest)
    | ':' :: _ => none
    | _ => some ({}, cs)
  (← read cs.length start.1 start.2).complete?

def zeroRun (pieces : List Nat) : Nat :=
  (pieces.takeWhile (· == 0)).length

/-- Where the first of the longest runs of at least two zeros starts, and how long it is. -/
def longestRun? (pieces : List Nat) : Option (Nat × Nat) :=
  (List.range pieces.length).foldl
    (fun best start =>
      let length := zeroRun (pieces.drop start)
      match best with
      | some (_, longest) => if length > longest then some (start, length) else best
      | none => if length ≥ 2 then some (start, length) else none)
    none

def printPiece (piece : Nat) : String :=
  String.ofList (Nat.toDigits 16 piece)

def print (pieces : List Nat) : String :=
  let colons (ps : List Nat) := Text.joinWith ":" (ps.map printPiece)
  match longestRun? pieces with
  | none => colons pieces
  | some (start, length) =>
      colons (pieces.take start) ++ "::" ++ colons (pieces.drop (start + length))

end Ipv6

/-! ## Hosts of all kinds -/

inductive Host where
  | domain (name : String)
  | ipv4 (address : Nat)
  | ipv6 (pieces : List Nat)
  deriving DecidableEq, Repr

namespace Host

def parse? (text : List Char) : Option Host :=
  match text with
  | '[' :: rest =>
      if rest.getLast? == some ']' then (Ipv6.parse? rest.dropLast).map .ipv6 else none
  | _ => do
      let decoded ← decode? (String.ofList text)
      let name ← Domain.toAscii? decoded.toList
      if name.isEmpty then none
      else if Ipv4.endsInNumber name then (Ipv4.parse? name).map .ipv4
      else some (.domain (String.ofList name))

def print : Host → String
  | domain name => name
  | ipv4 address => Ipv4.print address
  | ipv6 pieces => "[" ++ Ipv6.print pieces ++ "]"

end Host

end SafeReadme.Url
