import SafeReadme.Html.Reference.Read
import SafeReadme.Html.Token

/-!
# Reading character data

Each function reads on behind `done` and returns the whole text with the characters that follow it.
-/

namespace SafeReadme.Html

/-- Reads decoded text up to a tag or a NUL; the number counts the characters that are read
already. -/
def readText (done : String) : Nat → List Char → String × List Char
  | _, [] => (done, [])
  | skip + 1, _ :: cs => readText done skip cs
  | 0, c :: cs =>
      if c = '<' || c = '\x00' then (done, c :: cs)
      else if c = '&' then
        match Reference.read? false cs with
        | some read => readText (done ++ String.ofList read.text) read.length cs
        | none => readText (done.push c) 0 cs
      else readText (done.push c) 0 cs

def readEscapable (tag : String) (done : String) : Nat → List Char → String × List Char
  | _, [] => (done, [])
  | skip + 1, _ :: cs => readEscapable tag done skip cs
  | 0, c :: cs =>
      if c = '<' && closes tag cs then (done, c :: cs)
      else if c = '&' then
        match Reference.read? false cs with
        | some read => readEscapable tag (done ++ String.ofList read.text) read.length cs
        | none => readEscapable tag (done.push c) 0 cs
      else readEscapable tag (done.push (visible c)) 0 cs

def readRaw (tag : String) (done : String) : List Char → String × List Char
  | [] => (done, [])
  | c :: cs =>
      if c = '<' && closes tag cs then (done, c :: cs)
      else readRaw tag (done.push (visible c)) cs

/-- How deep a script is inside comments, with the dashes just read. -/
inductive ScriptPart where
  | outside
  | commented (dashes : Nat)
  | nested (dashes : Nat)
  deriving DecidableEq, Repr

/-- A character of a script with those behind it: where it leads, and how many of the characters
behind it are read with it. -/
def ScriptPart.step (part : ScriptPart) (c : Char) (cs : List Char) : ScriptPart × Nat :=
  match part with
  | .outside => if c = '<' && cs.take 3 == ['!', '-', '-'] then (.commented 2, 3) else (.outside, 0)
  | .commented dashes =>
      if c = '-' then (.commented (min 2 (dashes + 1)), 0)
      else if c = '>' && dashes == 2 then (.outside, 0)
      else if c = '<' && namesTag "script" cs then (.nested 0, 7)
      else (.commented 0, 0)
  | .nested dashes =>
      if c = '-' then (.nested (min 2 (dashes + 1)), 0)
      else if c = '>' && dashes == 2 then (.outside, 0)
      else if c = '<' && closes "script" cs then (.commented 0, 8)
      else (.nested 0, 0)

def readScript (part : ScriptPart) (done : String) : Nat → List Char → String × List Char
  | _, [] => (done, [])
  | skip + 1, c :: cs => readScript part (done.push (visible c)) skip cs
  | 0, c :: cs =>
      let nested := match part with
        | .nested _ => true
        | _ => false
      if c = '<' && !nested && closes "script" cs then (done, c :: cs)
      else
        let (part, skip) := part.step c cs
        readScript part (done.push (visible c)) skip cs

def readSection (done : String) : List Char → String × List Char
  | [] => (done, [])
  | ']' :: ']' :: '>' :: cs => (done, cs)
  | c :: cs => readSection (done.push c) cs

def startsUnterminated : List Char → Bool
  | '&' :: '#' :: cs =>
      match Reference.read? false ('#' :: cs) with
      | some read => !read.terminated
      | none => false
  | _ => false

end SafeReadme.Html
