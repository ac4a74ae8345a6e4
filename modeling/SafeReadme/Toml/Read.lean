import SafeReadme.Toml.Key
import SafeReadme.Toml.Moment
import SafeReadme.Toml.Number
import SafeReadme.Toml.Value

/-!
# Reading TOML

A document is a list of entries, each in the table that the header before it begins.
-/

namespace SafeReadme.Toml

/-- Reads the values of an array with `read` up to its bracket. Every round reads at least one
character. -/
def elements? (read : List Char → Option (Value × List Char)) :
    (fuel : Nat) → List Char → Option (List Value × List Char)
  | 0, _ => none
  | fuel + 1, cs => do
      match ← gap? false cs with
      | ']' :: rest => return ([], rest)
      | cs =>
          let (value, rest) ← read cs
          match ← gap? false rest with
          | ',' :: rest =>
              let (values, rest) ← elements? read fuel rest
              return (value :: values, rest)
          | ']' :: rest => return ([value], rest)
          | _ => none

def pair? (read : List Char → Option (Value × List Char)) (cs : List Char) :
    Option ((List String × Value) × List Char) := do
  let (keys, rest) ← dottedKey? cs
  match rest with
  | '=' :: rest =>
      let (value, rest) ← read (skipBlanks rest)
      return ((keys, value), rest)
  | _ => none

def braced? (read : List Char → Option (Value × List Char)) :
    (fuel : Nat) → Entries → List Char → Option (Entries × List Char)
  | 0, _, _ => none
  | fuel + 1, es, cs => do
      let ((keys, value), rest) ← pair? read cs
      let es ← es.assign value keys
      match skipBlanks rest with
      | ',' :: rest => braced? read fuel es rest
      | '\x7d' :: rest => return (es, rest)
      | _ => none

def scalar? (cs : List Char) : Option (Value × List Char) :=
  match cs with
  | '"' :: _ | '\x27' :: _ => (quoted? cs).map fun (text, rest) => (.string text, rest)
  | 't' :: 'r' :: 'u' :: 'e' :: rest => some (.boolean true, rest)
  | 'f' :: 'a' :: 'l' :: 's' :: 'e' :: rest => some (.boolean false, rest)
  | _ => (moment? cs).or (number? cs)

/-- Reads a value with fewer than `depth` arrays and tables inside one another. -/
def value? : (depth : Nat) → List Char → Option (Value × List Char)
  | 0, _ => none
  | depth + 1, cs =>
      match cs with
      | '[' :: rest =>
          if depth = 0 then none
          else (elements? (value? depth) (rest.length + 1) rest).map fun (values, rest) =>
            (.array values, rest)
      | '\x7b' :: rest =>
          if depth = 0 then none
          else
            match skipBlanks rest with
            | '\x7d' :: rest => some (.table .braces [], rest)
            | _ => (braced? (value? depth) (rest.length + 1) [] rest).map fun (es, rest) =>
                (.table .braces es, rest)
      | _ => scalar? cs

structure Document where
  entries : Entries := []
  header : List String := []

def Document.open? (d : Document) (isElement : Bool) (keys : List String) : Option Document := do
  let key ← keys.getLast?
  let start := if isElement then Entries.openElement key else Entries.openTable key
  return ⟨← d.entries.within start keys.dropLast, keys⟩

def Document.header? (d : Document) (cs : List Char) : Option (Document × List Char) := do
  match cs with
  | '[' :: rest =>
      match ← dottedKey? rest with
      | (keys, ']' :: ']' :: rest) => return (← d.open? true keys, rest)
      | _ => none
  | _ =>
      match ← dottedKey? cs with
      | (keys, ']' :: rest) => return (← d.open? false keys, rest)
      | _ => none

def Document.entry? (d : Document) (cs : List Char) : Option (Document × List Char) := do
  let ((keys, value), rest) ← pair? (value? maxDepth) cs
  return ({ d with entries := ← d.entries.within (Entries.assign value keys) d.header }, rest)

def Document.readLines : (fuel : Nat) → Document → List Char → Option Document
  | 0, _, _ => none
  | fuel + 1, d, cs => do
      match skipBlanks cs with
      | [] => return d
      | '[' :: rest =>
          let (d, rest) ← d.header? rest
          readLines fuel d (← lineEnd? rest)
      | c :: rest =>
          if c == '#' || c == '\n' || c == '\r' then readLines fuel d (← lineEnd? (c :: rest))
          else do
            let (d, rest) ← d.entry? (c :: rest)
            readLines fuel d (← lineEnd? rest)

/-- The entries of a document. A byte order mark may stand at its start. -/
def read? (text : String) : Option Entries :=
  let cs :=
    match text.toList with
    | '\ufeff' :: rest => rest
    | cs => cs
  (Document.readLines (cs.length + 1) {} cs).map Document.entries

end SafeReadme.Toml
