import SafeReadme.Text.Basic
import SafeReadme.Toml.Value

/-!
# Dates and times

A moment is a date, a time of day, or both with or without an offset. It is kept as the text that
is usual for it: `T` before the time, nine places of a second at most and no zero at their end.
-/

namespace SafeReadme.Toml

def field? (count low high : Nat) (cs : List Char) : Option (Nat × List Char) := do
  let digits := cs.take count
  if digits.length < count then none
  let n ← Text.numeral? 10 digits
  if low ≤ n && n ≤ high then return (n, cs.drop count) else none

def char? (c : Char) : List Char → Option (List Char)
  | d :: rest => if d == c then some rest else none
  | [] => none

def daysIn (year month : Nat) : Nat :=
  if month = 2 then
    if year % 4 = 0 && (year % 100 != 0 || year % 400 = 0) then 29 else 28
  else if [4, 6, 9, 11].contains month then 30
  else 31

def date? (cs : List Char) : Option (List Char) := do
  let (year, rest) ← field? 4 0 9999 cs
  let (month, rest) ← field? 2 1 12 (← char? '-' rest)
  let (_, rest) ← field? 2 1 (daysIn year month) (← char? '-' rest)
  return rest

def hourMinute? (cs : List Char) : Option (List Char) := do
  let (_, rest) ← field? 2 0 23 cs
  let (_, rest) ← field? 2 0 59 (← char? ':' rest)
  return rest

/-- Reads the fraction of a second, if there is one, and gives it in its usual form. -/
def secondFraction (cs : List Char) : List Char × List Char :=
  match cs with
  | '.' :: rest =>
      let digits := rest.takeWhile Char.isDigit
      if digits.isEmpty then ([], cs)
      else
        let places := ((digits.take 9).reverse.dropWhile (· == '0')).reverse
        (if places.isEmpty then [] else '.' :: places, rest.drop digits.length)
  | _ => ([], cs)

def time? (cs : List Char) : Option (List Char × List Char) := do
  let rest ← hourMinute? cs
  let (_, rest) ← field? 2 0 60 (← char? ':' rest)
  let (fraction, rest) := secondFraction rest
  return (cs.take 8 ++ fraction, rest)

def offset (cs : List Char) : List Char × List Char :=
  match cs with
  | 'Z' :: rest | 'z' :: rest => (['Z'], rest)
  | mark :: rest =>
      if mark == '+' || mark == '-' then
        match hourMinute? rest with
        | some after =>
            let written := rest.take 5
            ((if written == "00:00".toList then '+' else mark) :: written, after)
        | none => ([], cs)
      else ([], cs)
  | [] => ([], cs)

def timeOfDate (cs : List Char) : List Char × List Char :=
  match cs with
  | mark :: rest =>
      if mark == 'T' || mark == 't' || mark == ' ' then
        match time? rest with
        | some (time, rest) =>
            let (offset, rest) := offset rest
            ('T' :: time ++ offset, rest)
        | none => ([], cs)
      else ([], cs)
  | [] => ([], cs)

def moment? (cs : List Char) : Option (Value × List Char) :=
  match date? cs with
  | some rest =>
      let (time, rest) := timeOfDate rest
      some (.moment (String.ofList (cs.take 10 ++ time)), rest)
  | none => (time? cs).map fun (time, rest) => (.moment (String.ofList time), rest)

end SafeReadme.Toml
