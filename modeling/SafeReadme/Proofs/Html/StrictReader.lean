import Mathlib.Data.List.Basic
import SafeReadme.Proofs.Html.Unique

/-!
# A strict reader of written documents

The reader knows the shapes that the writer uses and refuses all others: names of plain characters,
values in double quotes, five character references, end tags that match, and a start tag that ends in
` />` exactly for void elements.
-/

namespace SafeReadme.Html

/-! ## The shapes -/

/-- Reads a character that is none of `delimiters`, or one of the five references. -/
def readChar? (delimiters : List Char) : List Char → Option (Char × List Char)
  | [] => none
  | c :: cs => if delimiters.contains c then none else decodeFirst (c :: cs)

/-- The characters of text that are written as references only. -/
def textDelimiters : List Char :=
  ['<', '>']

def valueDelimiters : List Char :=
  ['<', '>', '"', '\x27']

def readName? (cs : List Char) : Option (String × List Char) :=
  let name := String.ofList (cs.takeWhile isPlainChar)
  if isPlainName name then some (name, cs.dropWhile isPlainChar) else none

theorem length_decodeFirst {cs rest : List Char} {c : Char} (h : decodeFirst cs = some (c, rest)) :
    rest.length < cs.length := by
  unfold decodeFirst at h
  split at h
  case h_6 =>
    split at h
    · cases h
    · cases h
      simp
  case h_7 => cases h
  all_goals
    cases h
    simp only [List.length_cons]
    omega

theorem length_readChar? {delimiters cs rest : List Char} {c : Char}
    (h : readChar? delimiters cs = some (c, rest)) : rest.length < cs.length := by
  cases cs with
  | nil => cases h
  | cons d cs =>
      rw [readChar?] at h
      split at h
      · cases h
      · exact length_decodeFirst h

def readValue? (cs : List Char) : Option (List Char × List Char) :=
  if cs.head? = some '"' then some ([], cs.tail)
  else
    match _h : readChar? valueDelimiters cs with
    | none => none
    | some (c, rest) => (readValue? rest).map fun (value, rest) => (c :: value, rest)
termination_by cs.length
decreasing_by exact length_readChar? _h

/-- Reads an attribute with the space in front of it. -/
def readAttribute? : List Char → Option (Attribute × List Char)
  | ' ' :: cs =>
      match readName? cs with
      | some (name, '=' :: '"' :: cs) =>
          (readValue? cs).map fun (value, rest) => (⟨name, String.ofList value⟩, rest)
      | _ => none
  | _ => none

def readBracket? (tag : String) (cs : List Char) : Option (List Char) :=
  (bracketOf tag).isPrefixOf? cs

theorem length_readName? {cs rest : List Char} {name : String}
    (h : readName? cs = some (name, rest)) : rest.length ≤ cs.length := by
  rw [readName?] at h
  split at h
  · cases h
    exact (List.dropWhile_suffix isPlainChar).length_le
  · cases h

theorem length_readValue? {cs value rest : List Char} (h : readValue? cs = some (value, rest)) :
    rest.length ≤ cs.length := by
  fun_induction readValue? cs generalizing value rest with
  | case1 cs hquote =>
      cases h
      simp
  | case2 => cases h
  | case3 cs hquote c more hchar ih =>
      obtain ⟨⟨value', rest'⟩, hmore, hpair⟩ := Option.map_eq_some_iff.1 h
      cases hpair
      exact Nat.le_of_lt (Nat.lt_of_le_of_lt (ih hmore) (length_readChar? hchar))

theorem length_readAttribute? {cs rest : List Char} {a : Attribute}
    (h : readAttribute? cs = some (a, rest)) : rest.length < cs.length := by
  unfold readAttribute? at h
  split at h
  next cs =>
    split at h
    next name more hname =>
      obtain ⟨⟨value, rest'⟩, hvalue, hpair⟩ := Option.map_eq_some_iff.1 h
      cases hpair
      have hlate := length_readValue? hvalue
      have hearly := length_readName? hname
      simp only [List.length_cons] at hearly ⊢
      omega
    · cases h
  · cases h

def readAttributes? (tag : String) (cs : List Char) : Option (List Attribute × List Char) :=
  match readBracket? tag cs with
  | some rest => some ([], rest)
  | none =>
      match _h : readAttribute? cs with
      | none => none
      | some (a, rest) =>
          (readAttributes? tag rest).map fun (attributes, rest) => (a :: attributes, rest)
termination_by cs.length
decreasing_by exact length_readAttribute? _h

def readPiece? : List Char → Option (Piece × List Char)
  | '<' :: '/' :: cs =>
      match readName? cs with
      | some (tag, '>' :: rest) => some (.ending tag, rest)
      | _ => none
  | '<' :: cs =>
      match readName? cs with
      | some (tag, cs) =>
          (readAttributes? tag cs).map fun (attributes, rest) => (.opening tag attributes, rest)
      | none => none
  | cs => (readChar? textDelimiters cs).map fun (c, rest) => (.char c, rest)

theorem length_readBracket? {tag : String} {cs rest : List Char}
    (h : readBracket? tag cs = some rest) : rest.length ≤ cs.length := by
  obtain rfl := List.isPrefixOf?_eq_some_iff_append_eq.1 h
  simp

theorem length_readAttributes? {tag : String} {cs rest : List Char} {attributes : List Attribute}
    (h : readAttributes? tag cs = some (attributes, rest)) : rest.length ≤ cs.length := by
  fun_induction readAttributes? tag cs generalizing attributes rest with
  | case1 cs rest' hbracket =>
      cases h
      exact length_readBracket? hbracket
  | case2 => cases h
  | case3 cs hbracket a more hattribute ih =>
      obtain ⟨⟨attributes', rest'⟩, hmore, hpair⟩ := Option.map_eq_some_iff.1 h
      cases hpair
      exact Nat.le_of_lt (Nat.lt_of_le_of_lt (ih hmore) (length_readAttribute? hattribute))

theorem length_readPiece? {cs rest : List Char} {p : Piece} (h : readPiece? cs = some (p, rest)) :
    rest.length < cs.length := by
  unfold readPiece? at h
  split at h
  next cs =>
    split at h
    next tag rest' hname =>
      cases h
      have hshort := length_readName? hname
      simp only [List.length_cons] at hshort ⊢
      omega
    · cases h
  next cs _ =>
    split at h
    next tag more hname =>
      obtain ⟨⟨attributes, rest'⟩, hattributes, hpair⟩ := Option.map_eq_some_iff.1 h
      cases hpair
      have hshort := length_readName? hname
      have hshorter := length_readAttributes? hattributes
      simp only [List.length_cons]
      omega
    · cases h
  · obtain ⟨⟨c, rest'⟩, hchar, hpair⟩ := Option.map_eq_some_iff.1 h
    cases hpair
    exact length_readChar? hchar

def readPieces? (cs : List Char) : Option (List Piece) :=
  if cs.isEmpty then some []
  else
    match _h : readPiece? cs with
    | none => none
    | some (p, rest) => (readPieces? rest).map (p :: ·)
termination_by cs.length
decreasing_by exact length_readPiece? _h

/-! ## Nesting -/

/-- A start tag whose end tag has not come yet, and the nodes in front of it in reverse. -/
structure OpenTag where
  tag : String
  attributes : List Attribute
  before : List Node

/-- Puts a character behind nodes in reverse. It goes on with a text that stands there. -/
def putChar (c : Char) : List Node → List Node
  | .text content :: before => .text (content.push c) :: before
  | before => .text (String.singleton c) :: before

/-- Makes a forest of pieces. `after` are the nodes behind the innermost open tag in reverse, and
`fresh` says that a newline that comes at once is to be dropped. -/
def nest? (fresh : Bool) (opened : List OpenTag) (after : List Node) :
    List Piece → Option (List Node)
  | [] => if opened.isEmpty then some after.reverse else none
  | .char c :: ps =>
      if fresh && c == '\n' then nest? false opened after ps
      else nest? false opened (putChar c after) ps
  | .opening tag attributes :: ps =>
      if isVoid tag then nest? false opened (.element tag attributes [] :: after) ps
      else nest? (dropsNewline tag) (⟨tag, attributes, after⟩ :: opened) [] ps
  | .ending tag :: ps =>
      match opened with
      | [] => none
      | o :: opened =>
          if o.tag = tag then
            nest? false opened (.element tag o.attributes after.reverse :: o.before) ps
          else none

def readStrictly? (html : String) : Option (List Node) :=
  (readPieces? html.toList).bind (nest? false [] [])

end SafeReadme.Html
