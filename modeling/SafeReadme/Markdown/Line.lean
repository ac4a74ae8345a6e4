/-!
# Lines and indentation

Blocks are found line by line. A `Cursor` stands in a line; a tab reaches to the next multiple of
four columns, and what a prefix leaves of it is still owed as spaces.
-/

namespace SafeReadme.Markdown

structure Line where
  text : List Char
  /-- A line feed, a carriage return, both, or nothing at the end of the document. -/
  ending : List Char
  deriving DecidableEq, Repr

def linesFrom (done : List Char) : List Char → List Line
  | [] => if done.isEmpty then [] else [⟨done.reverse, []⟩]
  | '\r' :: '\n' :: cs => ⟨done.reverse, ['\r', '\n']⟩ :: linesFrom [] cs
  | c :: cs =>
      if c = '\n' || c = '\r' then ⟨done.reverse, [c]⟩ :: linesFrom [] cs
      else linesFrom (c :: done) cs

def lines (cs : List Char) : List Line :=
  linesFrom [] cs

/-- The end of a line where it is kept: a carriage return in front of a line feed is not. -/
def Line.kept (line : Line) : List Char :=
  if line.ending.length = 2 then ['\n'] else line.ending

def isGap (c : Char) : Bool :=
  c = ' ' || c = '\t' || c = '\x0b' || c = '\x0c'

def isWhite (c : Char) : Bool :=
  isGap c || c = '\n' || c = '\r'

def isBlankRest (cs : List Char) : Bool :=
  cs.all isGap

def trimGapEnd (cs : List Char) : List Char :=
  (cs.reverse.dropWhile isGap).reverse

structure Cursor where
  rest : List Char
  column : Nat
  /-- The columns of a tab that are still to come. -/
  owed : Nat
  deriving DecidableEq, Repr

namespace Cursor

def start (cs : List Char) : Cursor :=
  ⟨cs, 0, 0⟩

def skipColumns : List Char → (column count : Nat) → Nat × Cursor
  | cs, column, 0 => (0, ⟨cs, column, 0⟩)
  | ' ' :: cs, column, count + 1 => skipColumns cs (column + 1) count
  | '\t' :: cs, column, count + 1 =>
      let width := 4 - column % 4
      if count < width then (0, ⟨cs, column + width, width - (count + 1)⟩)
      else skipColumns cs (column + width) (count + 1 - width)
  | cs, column, count + 1 => (count + 1, ⟨cs, column, 0⟩)

/-- Goes over at most `count` columns of white space; the result counts those that are missing. -/
def skip (c : Cursor) (count : Nat) : Nat × Cursor :=
  if count ≤ c.owed then (0, { c with owed := c.owed - count })
  else skipColumns c.rest c.column (count - c.owed)

def skipUpTo (c : Cursor) (count : Nat) : Nat × Cursor :=
  let (missing, c) := c.skip count
  (count - missing, c)

def skipAll (c : Cursor) : Cursor :=
  start (c.rest.dropWhile (fun c => c = ' ' || c = '\t'))

def advance (c : Cursor) (count : Nat) : Cursor :=
  ⟨c.rest.drop count, c.column + count, c.owed⟩

def atEnd (c : Cursor) : Bool :=
  c.rest.isEmpty

def content (c : Cursor) : List Char :=
  List.replicate c.owed ' ' ++ c.rest

end Cursor

end SafeReadme.Markdown
