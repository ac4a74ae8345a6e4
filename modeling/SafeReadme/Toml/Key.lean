import SafeReadme.Text.Basic

/-!
# Blanks, quoted text and keys

Readers take the rest of a text and give back what is left behind what they read, or nothing if the
text does not go on as it must.
-/

namespace SafeReadme.Toml

/-! ## Blanks, comments and line ends -/

def isBlank (c : Char) : Bool :=
  c == ' ' || c == '\t'

def skipBlanks (cs : List Char) : List Char :=
  cs.dropWhile isBlank

def isPrintable (c : Char) : Bool :=
  c == '\t' || (0x20 ≤ c.toNat && c.toNat != 0x7F)

def newline? : List Char → Option (List Char)
  | '\n' :: rest => some rest
  | '\r' :: '\n' :: rest => some rest
  | _ => none

/-- Reads what may follow on a line that is complete: blanks, a comment and the line end or the end
of the text. -/
def lineEnd? (cs : List Char) : Option (List Char) :=
  let rest :=
    match skipBlanks cs with
    | '#' :: comment => comment.dropWhile isPrintable
    | rest => rest
  if rest.isEmpty then some [] else newline? rest

def gap? (inComment : Bool) : List Char → Option (List Char)
  | '\n' :: rest => gap? false rest
  | '\r' :: rest =>
      match rest with
      | '\n' :: rest => gap? false rest
      | _ => none
  | c :: rest =>
      if inComment then
        if isPrintable c then gap? true rest else none
      else if isBlank c then gap? false rest
      else if c == '#' then gap? true rest
      else some (c :: rest)
  | [] => if inComment then none else some []

/-! ## Quoted text

Basic text stands in double quotes and knows escapes; literal text stands in single quotes and
knows none. Between three quotes a text may run over several lines. A line end in it is always read
as a line feed, and the one right behind the opening quotes is left out.
-/

def escapeOf? : Char → Option Char
  | 'b' => some '\x08'
  | 't' => some '\t'
  | 'n' => some '\n'
  | 'f' => some '\x0c'
  | 'r' => some '\r'
  | '"' => some '"'
  | '\\' => some '\\'
  | _ => none

def codePoint? (count : Nat) (cs : List Char) : Option Char := do
  let digits := cs.take count
  if digits.length < count then none
  let code ← Text.numeral? 16 digits
  if h : code.isValidChar then some (Char.ofNatAux code h) else none

/-- The character that an escape stands for, and how many characters behind the backslash belong to
the escape. -/
def escape? : List Char → Option (Char × Nat)
  | 'u' :: rest => (codePoint? 4 rest).map (·, 5)
  | 'U' :: rest => (codePoint? 8 rest).map (·, 9)
  | c :: _ => (escapeOf? c).map (·, 1)
  | [] => none

def consText (c : Char) (read : Option (List Char × List Char)) :
    Option (List Char × List Char) :=
  read.map fun (text, rest) => (c :: text, rest)

/-- Reads basic text up to its quote, but for the first `skip` characters, which belong to an escape
that was read. -/
def basic? (skip : Nat) : List Char → Option (List Char × List Char)
  | [] => none
  | c :: rest =>
      match skip with
      | skip + 1 => basic? skip rest
      | 0 =>
          if c == '"' then some ([], rest)
          else if c == '\\' then do
            let (escaped, length) ← escape? rest
            consText escaped (basic? length rest)
          else if isPrintable c then consText c (basic? 0 rest)
          else none

def literal? (cs : List Char) : Option (List Char × List Char) :=
  let (text, rest) := cs.span (fun c => isPrintable c && c != '\x27')
  match rest with
  | '\x27' :: rest => some (text, rest)
  | _ => none

/-- What comes of quotes in a text between three quotes: the text ends with three of them, and up
to two before those belong to it. The quotes are read but for the first; nothing comes if the
text goes on. -/
def closing? (quote : Char) (rest : List Char) : Option (List Char × List Char) :=
  let quotes := (rest.takeWhile (· == quote)).take 4
  if quotes.length < 2 then none
  else some (quotes.drop 2, rest.drop quotes.length)

inductive LongMode where
  | take
  | skip (count : Nat)
  | unwrap
  | indent
  deriving DecidableEq

def wraps : List Char → Bool
  | c :: _ => isBlank c || c == '\n' || c == '\r'
  | [] => false

def longBasic? (mode : LongMode) : List Char → Option (List Char × List Char)
  | [] => none
  | c :: rest =>
      let atLineEnd := c == '\n' || (c == '\r' && rest.head? == some '\n')
      match mode with
      | .skip (count + 1) => longBasic? (if count = 0 then .take else .skip count) rest
      | .unwrap =>
          if c == '\n' then longBasic? .indent rest
          else if isBlank c || atLineEnd then longBasic? .unwrap rest
          else none
      | .indent | .take | .skip 0 =>
          if mode = .indent && (isBlank c || atLineEnd) then longBasic? .indent rest
          else if c == '"' then
            match closing? '"' rest with
            | some closed => some closed
            | none => consText '"' (longBasic? .take rest)
          else if c == '\\' then
            if wraps rest then longBasic? .unwrap rest
            else do
              let (escaped, length) ← escape? rest
              consText escaped (longBasic? (.skip length) rest)
          else if c == '\r' && atLineEnd then longBasic? .take rest
          else if c == '\n' || isPrintable c then consText c (longBasic? .take rest)
          else none

def longLiteral? : List Char → Option (List Char × List Char)
  | [] => none
  | c :: rest =>
      if c == '\x27' then
        match closing? '\x27' rest with
        | some closed => some closed
        | none => consText c (longLiteral? rest)
      else if c == '\r' then
        if rest.head? == some '\n' then longLiteral? rest else none
      else if c == '\n' || isPrintable c then consText c (longLiteral? rest)
      else none

def skipNewline (cs : List Char) : List Char :=
  (newline? cs).getD cs

def quoted? (cs : List Char) : Option (String × List Char) := do
  let (text, rest) ←
    match cs with
    | '"' :: '"' :: '"' :: rest => longBasic? .take (skipNewline rest)
    | '"' :: rest => basic? 0 rest
    | '\x27' :: '\x27' :: '\x27' :: rest => longLiteral? (skipNewline rest)
    | '\x27' :: rest => literal? rest
    | _ => none
  return (String.ofList text, rest)

/-! ## Keys

A key is bare or quoted, and keys with dots between them lead into tables.
-/

def isBare (c : Char) : Bool :=
  c.isAlphanum || c == '-' || c == '_'

/-- Reads one key. Quotes around a key are never threefold. -/
def key? (cs : List Char) : Option (String × List Char) := do
  let (key, rest) ←
    match cs with
    | '"' :: rest => basic? 0 rest
    | '\x27' :: rest => literal? rest
    | _ =>
        let (key, rest) := cs.span isBare
        if key.isEmpty then none else some (key, rest)
  return (String.ofList key, rest)

def maxDepth : Nat :=
  80

def keys? : (limit : Nat) → List Char → Option (List String × List Char)
  | 0, _ => none
  | limit + 1, cs => do
      let (key, rest) ← key? (skipBlanks cs)
      match skipBlanks rest with
      | '.' :: rest => do
          let (keys, rest) ← keys? limit rest
          return (key :: keys, rest)
      | rest => return ([key], rest)

def dottedKey? (cs : List Char) : Option (List String × List Char) :=
  keys? (maxDepth - 1) cs

end SafeReadme.Toml
