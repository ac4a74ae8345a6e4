import SafeReadme.Text.Basic

/-!
# Pages

What fits a sanitized document to the page of a package.
-/

namespace SafeReadme.Page

/-! ## The leading title

A package page shows the name of the project above its README, so a README that starts with a
heading of level 1 or 2 is shown without it. The heading runs to its own end tag, headings of the
same level inside it counted; a heading without an end stays.
-/

structure HeadingTag where
  closing : Bool
  level : Char
  rest : List Char

def afterBracket? (cs : List Char) : Option (List Char) :=
  match cs.dropWhile (· != '>') with
  | [] => none
  | _ :: rest => some rest

/-- The text behind a tag whose name has been read: the tag ends at once, or a blank comes first. -/
def tagEnd? : List Char → Option (List Char)
  | [] => none
  | c :: cs =>
      if c == '>' then some cs
      else if Text.isBlank c then afterBracket? cs
      else none

def headingName? (closing : Bool) : List Char → Option HeadingTag
  | 'h' :: level :: cs =>
      if level == '1' || level == '2' then (tagEnd? cs).map (⟨closing, level, ·⟩) else none
  | _ => none

def headingTag? : List Char → Option HeadingTag
  | '/' :: cs => headingName? true cs
  | cs => headingName? false cs

/-- The text behind the end tag of a heading in which `nested` headings of its level are open.
Inside a tag, everything up to the next `>` is passed over. -/
def afterHeading? (level : Char) : (nested : Nat) → (inTag : Bool) → List Char →
    Option (List Char)
  | _, _, [] => none
  | nested, true, c :: cs => afterHeading? level nested (c != '>') cs
  | nested, false, c :: cs =>
      if c != '<' then afterHeading? level nested false cs
      else
        match headingTag? cs with
        | none => afterHeading? level nested false cs
        | some tag =>
            if tag.level != level then afterHeading? level nested true cs
            else if !tag.closing then afterHeading? level (nested + 1) true cs
            else
              match nested with
              | 0 => some tag.rest
              | nested + 1 => afterHeading? level nested true cs

def afterLeadingTitle? (cs : List Char) : Option (List Char) :=
  match cs.dropWhile Text.isBlank with
  | '<' :: rest => do
      let tag ← headingName? false rest
      afterHeading? tag.level 0 false tag.rest
  | _ => none

def stripLeadingTitle (html : String) : String :=
  match afterLeadingTitle? html.toList with
  | some rest => String.ofList rest
  | none => html

/-! ## The image mirror

GitHub serves raw files without the types that images need. Images whose source lies on one of its
raw hosts are fetched from a mirror instead; the rest of the address stays.
-/

def mirrorRoot : String :=
  "https://rawcdn.githack.com/"

def rawRoots : List (List Char) :=
  ["https://raw.githubusercontent.com/".toList, "https://raw.github.com/".toList]

def sourceStart : List Char :=
  "src=\"".toList

def rawSource? (cs : List Char) : Option Nat := do
  let value ← sourceStart.isPrefixOf? cs
  (rawRoots.find? (·.isPrefixOf value)).map List.length

/-- The first source attribute on a raw host that follows a blank, before the tag ends: where its
value starts, and how long the address of the host is. -/
def laterSource? (passed : Nat) : List Char → Option (Nat × Nat)
  | [] => none
  | c :: cs =>
      if c == '>' then none
      else if Text.isBlank c then
        match rawSource? cs with
        | some length => some (passed + 1 + sourceStart.length, length)
        | none => laterSource? (passed + 1) cs
      else laterSource? (passed + 1) cs

/-- The source attribute to rewrite in an image tag, behind its `<`. One that follows more of the
tag goes before one that comes at once. -/
def imageSource? : List Char → Option (Nat × Nat)
  | 'i' :: 'm' :: 'g' :: c :: cs =>
      if Text.isBlank c then
        (laterSource? 4 cs).or ((rawSource? cs).map (4 + sourceStart.length, ·))
      else none
  | _ => none

inductive Pending where
  | nothing
  /-- Characters to copy before the address of the host, whose length is given. -/
  | copying (left : Nat) (length : Nat)
  | skipping (left : Nat)

def mirrorTo (out : String) : Pending → List Char → String
  | _, [] => out
  | .skipping (n + 1), _ :: cs => mirrorTo out (.skipping n) cs
  | .copying (n + 1) length, c :: cs =>
      if n = 0 then mirrorTo (out.push c ++ mirrorRoot) (.skipping length) cs
      else mirrorTo (out.push c) (.copying n length) cs
  | _, c :: cs =>
      let next :=
        if c == '<' then
          match imageSource? cs with
          | some (left, length) => .copying left length
          | none => .nothing
        else .nothing
      mirrorTo (out.push c) next cs

def mirrorImages (html : String) : String :=
  mirrorTo "" .nothing html.toList

/-! ## Both together -/

def present (html : String) : String :=
  mirrorImages (stripLeadingTitle html)

end SafeReadme.Page
