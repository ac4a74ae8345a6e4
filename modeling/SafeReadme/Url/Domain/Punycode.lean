/-!
# Punycode

A text is written in ASCII: first its ASCII characters, then, behind a hyphen, numbers that say which
other characters go where. The numbers have digits of varying weight in base 36, and the weights
adapt to the numbers that came before.
-/

namespace SafeReadme.Url.Domain.Punycode

def base : Nat := 36
def leastThreshold : Nat := 1
def greatestThreshold : Nat := 26
def firstBias : Nat := 72
def firstCode : Nat := 128

/-- The threshold of the digit in place `k`, counted in steps of `base` from one. -/
def threshold (bias k : Nat) : Nat :=
  max leastThreshold (min greatestThreshold (base * k - bias))

/-- Divides a number until it is in range, and gives the bias of the divisions. -/
def shrink : (fuel : Nat) → Nat → Nat × Nat
  | 0, delta => (delta, 0)
  | fuel + 1, delta =>
      if (base - leastThreshold) * greatestThreshold / 2 < delta then
        let (delta, steps) := shrink fuel (delta / (base - leastThreshold))
        (delta, steps + base)
      else (delta, 0)

def adapt (delta length : Nat) (isFirst : Bool) : Nat :=
  let delta := if isFirst then delta / 700 else delta / 2
  let (delta, steps) := shrink 8 (delta + delta / length)
  steps + (base - leastThreshold + 1) * delta / (delta + 38)

def digit? (c : Char) : Option Nat :=
  if 'a' ≤ c && c ≤ 'z' then some (c.toNat - 0x61)
  else if c.isDigit then some (c.toNat - 0x30 + 26)
  else none

def digitOf (n : Nat) : Char :=
  if n < 26 then Char.ofNat (n + 0x61) else Char.ofNat (n - 26 + 0x30)

def limit : Nat :=
  Nat.pow 2 32

def number? (bias : Nat) : (k weight value : Nat) → List Char → Option (Nat × List Char)
  | _, _, _, [] => none
  | k, weight, value, c :: rest => do
      let digit ← digit? c
      let value := value + digit * weight
      let t := threshold bias k
      if limit ≤ value then none
      else if digit < t then return (value, rest)
      else
        let weight := weight * (base - t)
        if limit ≤ weight then none else number? bias (k + 1) weight value rest

/-- Reads numbers and puts their characters into a text. Every number has at least one digit. -/
def insertAll? : (fuel : Nat) → (code position bias : Nat) → List Char → List Char →
    Option (List Char)
  | _, _, _, _, text, [] => some text
  | 0, _, _, _, _, _ => none
  | fuel + 1, code, position, bias, text, cs => do
      let (delta, rest) ← number? bias 1 1 0 cs
      let length := text.length + 1
      let code := code + (position + delta) / length
      let place := (position + delta) % length
      if h : code.isValidChar then
        insertAll? fuel code (place + 1) (adapt delta length (position = 0))
          (text.take place ++ Char.ofNatAux code h :: text.drop place) rest
      else none

/-- Cuts a text at its last hyphen. With nothing before a hyphen, all of it comes behind. -/
def cut (cs : List Char) : List Char × List Char :=
  match cs.reverse.span (· != '-') with
  | (reversed, _ :: c :: before) => ((c :: before).reverse, reversed.reverse)
  | _ => ([], cs)

def decode? (cs : List Char) : Option (List Char) :=
  let (plain, numbers) := cut cs
  insertAll? cs.length firstCode 0 firstBias plain numbers

def writeNumber (bias : Nat) : (fuel k value : Nat) → List Char
  | 0, _, _ => []
  | fuel + 1, k, value =>
      let t := threshold bias k
      if value < t then [digitOf value]
      else
        digitOf (t + (value - t) % (base - t)) ::
          writeNumber bias fuel (k + 1) ((value - t) / (base - t))

structure Writing where
  delta : Nat := 0
  bias : Nat := firstBias
  written : Nat
  isFirst : Bool := true
  /-- The text so far, in reverse. -/
  text : List Char := []

def Writing.pass (code : Nat) (s : Writing) (c : Char) : Writing :=
  if c.toNat < code then { s with delta := s.delta + 1 }
  else if c.toNat = code then
    { delta := 0
      bias := adapt s.delta (s.written + 1) s.isFirst
      written := s.written + 1
      isFirst := false
      text := (writeNumber s.bias 32 1 s.delta).reverse ++ s.text }
  else s

def writeAll (cs : List Char) : (fuel code : Nat) → Writing → Writing
  | 0, _, s => s
  | fuel + 1, code, s =>
      match ((cs.map Char.toNat).filter (code ≤ ·)).min? with
      | none => s
      | some next =>
          let s := { s with delta := s.delta + (next - code) * (s.written + 1) }
          let s := cs.foldl (Writing.pass next) s
          writeAll cs fuel (next + 1) { s with delta := s.delta + 1 }

def encode (cs : List Char) : List Char :=
  let plain := cs.filter (·.toNat < firstCode)
  let start : Writing := { written := plain.length }
  plain ++ (if plain.isEmpty then [] else ['-']) ++
    (writeAll cs cs.length firstCode start).text.reverse

end SafeReadme.Url.Domain.Punycode
