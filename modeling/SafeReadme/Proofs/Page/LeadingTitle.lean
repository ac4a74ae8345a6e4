import SafeReadme.Page
import SafeReadme.Proofs.Html.Delimiters

/-!
# Stripping a title from a written forest

The search for the end of a heading counts tags in flat text. In a written forest every tag is found
where it stands, and the tags of a node are balanced, so the search ends at the end tag of the very
heading that it started in.
-/

namespace SafeReadme.Page

open Html

/-! ## Titles of forests -/

/-- What follows the leading title: a heading of level 1 or 2 that only texts of blanks precede. -/
def afterTitle? : List Node → Option (List Node)
  | [] => none
  | .text content :: rest => if content.toList.all Text.isBlank then afterTitle? rest else none
  | .element tag _ _ :: rest => if tag = "h1" ∨ tag = "h2" then some rest else none

def withoutTitle (nodes : List Node) : List Node :=
  (afterTitle? nodes).getD nodes

def titleLevel? (tag : String) : Option Char :=
  if tag = "h1" then some '1' else if tag = "h2" then some '2' else none

theorem titleLevel?_of_isVoid {tag : String} (h : isVoid tag = true) : titleLevel? tag = none := by
  have h1 : tag ≠ "h1" := by
    rintro rfl
    exact absurd h (by decide)
  have h2 : tag ≠ "h2" := by
    rintro rfl
    exact absurd h (by decide)
  rw [titleLevel?, if_neg h1, if_neg h2]

theorem titleLevel?_eq_none {tag : String} (h : ¬(tag = "h1" ∨ tag = "h2")) :
    titleLevel? tag = none := by
  rw [not_or] at h
  rw [titleLevel?, if_neg h.1, if_neg h.2]

theorem exists_titleLevel {tag : String} (h : tag = "h1" ∨ tag = "h2") :
    ∃ level, titleLevel? tag = some level ∧ tag.toList = ['h', level] ∧
      (level == '1' || level == '2') = true := by
  rcases h with rfl | rfl
  · exact ⟨'1', rfl, rfl, rfl⟩
  · exact ⟨'2', rfl, rfl, rfl⟩

theorem elements_afterTitle? {nodes rest : List Node} (h : afterTitle? nodes = some rest) :
    ∀ e ∈ elements rest, e ∈ elements nodes := by
  induction nodes with
  | nil => cases h
  | cons node more ih =>
      intro e he
      rw [elements_cons]
      apply List.mem_append_right
      cases node with
      | text content =>
          rw [afterTitle?] at h
          split at h
          · exact ih h e he
          · cases h
      | element tag attributes children =>
          rw [afterTitle?] at h
          split at h
          · cases h
            exact he
          · cases h

theorem elements_withoutTitle {nodes : List Node} :
    ∀ e ∈ elements (withoutTitle nodes), e ∈ elements nodes := by
  intro e he
  rw [withoutTitle] at he
  cases hafter : afterTitle? nodes with
  | none => rwa [hafter] at he
  | some rest =>
      rw [hafter] at he
      exact elements_afterTitle? hafter e he

/-! ## One tag -/

theorem afterBracket?_append {cs : List Char} (h : '>' ∉ cs) (rest : List Char) :
    afterBracket? (cs ++ '>' :: rest) = some rest := by
  rw [afterBracket?, dropWhile_delimiter h]

theorem tagEnd?_inside {inside : List Char} (hhead : ∀ c ∈ inside.head?, c = ' ')
    (h : '>' ∉ inside) (rest : List Char) : tagEnd? (inside ++ '>' :: rest) = some rest := by
  cases inside with
  | nil => rfl
  | cons c more =>
      obtain rfl : c = ' ' := hhead c rfl
      rw [List.mem_cons, not_or] at h
      exact afterBracket?_append h.2 rest

theorem tagEnd?_eq_none {c : Char} (h : isPlainChar c = true) (cs : List Char) :
    tagEnd? (c :: cs) = none := by
  have hbracket : c ≠ '>' := (plain_ne h).2.2.1
  simp [tagEnd?, hbracket, isBlank_of_isPlainChar h]

/-- A heading is read only from its whole name. -/
theorem exists_of_headingName? {closing : Bool} {cs : List Char} {read : HeadingTag}
    (h : headingName? closing cs = some read) :
    ∃ tag c more, (tag = "h1" ∨ tag = "h2") ∧ isPlainChar c = false ∧
      cs = tag.toList ++ c :: more := by
  unfold headingName? at h
  split at h
  next level more =>
    split at h
    next hdigit =>
      obtain ⟨behind, hbehind, -⟩ := Option.map_eq_some_iff.1 h
      cases more with
      | nil => cases hbehind
      | cons c more =>
          have hc : isPlainChar c = false := by
            by_contra hplain
            rw [tagEnd?_eq_none (by simpa using hplain)] at hbehind
            cases hbehind
          rcases Bool.or_eq_true_iff.1 hdigit with h1 | h2
          · obtain rfl := beq_iff_eq.1 h1
            exact ⟨"h1", c, more, .inl rfl, hc, rfl⟩
          · obtain rfl := beq_iff_eq.1 h2
            exact ⟨"h2", c, more, .inr rfl, hc, rfl⟩
    · cases h
  · cases h

/-- What follows a plain name settles whether the name is a heading's. -/
theorem headingName?_name {tag : String} (htag : isPlainName tag = true) (closing : Bool)
    {cs rest : List Char} (hcs : ∃ c more, cs = c :: more ∧ isPlainChar c = false)
    (hend : tagEnd? cs = some rest) :
    headingName? closing (tag.toList ++ cs) = (titleLevel? tag).map (⟨closing, ·, rest⟩) := by
  obtain ⟨c, cs, rfl, hc⟩ := hcs
  by_cases hheading : tag = "h1" ∨ tag = "h2"
  · obtain ⟨level, hlevel, hchars, hdigit⟩ := exists_titleLevel hheading
    rw [hlevel, hchars, List.cons_append, List.singleton_append, headingName?, if_pos hdigit, hend]
    rfl
  · rw [titleLevel?_eq_none hheading, Option.map_none, Option.eq_none_iff_forall_ne_some]
    intro read hread
    obtain ⟨other, d, more, hother, hd, hchars⟩ := exists_of_headingName? hread
    have hplain : isPlainName other = true := by
      rcases hother with rfl | rfl <;> rfl
    obtain rfl : tag = other := name_append_inj htag hplain hc hd hchars
    exact hheading hother

theorem headingTag?_opening {tag : String} (htag : isPlainName tag = true) {inside : List Char}
    (hhead : ∀ c ∈ inside.head?, c = ' ') (hinside : '>' ∉ inside) (rest : List Char) :
    headingTag? (tag.toList ++ (inside ++ '>' :: rest)) =
      (titleLevel? tag).map (⟨false, ·, rest⟩) := by
  obtain ⟨c, cs, hname, -, hplain⟩ := isPlainName_iff.1 htag
  have hslash : c ≠ '/' := (plain_ne (hplain c (by simp))).2.1
  have hcs : ∃ c more, inside ++ '>' :: rest = c :: more ∧ isPlainChar c = false := by
    cases inside with
    | nil => exact ⟨'>', rest, rfl, by decide⟩
    | cons d more =>
        obtain rfl : d = ' ' := hhead d rfl
        exact ⟨' ', _, rfl, by decide⟩
  rw [← headingName?_name htag false hcs (tagEnd?_inside hhead hinside rest), hname,
    List.cons_append, headingTag?]
  rintro more heq
  exact hslash (List.cons.inj heq).1

theorem headingTag?_ending {tag : String} (htag : isPlainName tag = true) (rest : List Char) :
    headingTag? ('/' :: (tag.toList ++ '>' :: rest)) = (titleLevel? tag).map (⟨true, ·, rest⟩) :=
  headingName?_name htag true ⟨'>', rest, rfl, by decide⟩ rfl

/-! ## The search for the end -/

/-- What the search does behind an end tag of its level: it ends, or goes on with one heading less
open. -/
def afterEnding? (level : Char) : (nested : Nat) → List Char → Option (List Char)
  | 0, rest => some rest
  | nested + 1, rest => afterHeading? level nested false rest

section Search

variable (level : Char) (nested : Nat)

theorem afterHeading?_pass {cs : List Char} (h : '<' ∉ cs) (rest : List Char) :
    afterHeading? level nested false (cs ++ rest) = afterHeading? level nested false rest := by
  induction cs with
  | nil => rfl
  | cons c cs ih =>
      rw [List.mem_cons, not_or] at h
      have hc : (c != '<') = true := by simpa using Ne.symm h.1
      rw [List.cons_append, afterHeading?, if_pos hc, ih h.2]

theorem afterHeading?_inTag {cs : List Char} (h : '>' ∉ cs) (rest : List Char) :
    afterHeading? level nested true (cs ++ '>' :: rest) = afterHeading? level nested false rest := by
  induction cs with
  | nil => rfl
  | cons c cs ih =>
      rw [List.mem_cons, not_or] at h
      have hc : (c != '>') = true := by simpa using Ne.symm h.1
      rw [List.cons_append, afterHeading?, hc, ih h.2]

/-- The search over a tag that is read as what it is. Tags of other names and of the other level
are passed over. -/
theorem afterHeading?_tag {tag : String} {closing : Bool} {passed rest : List Char}
    (hread : headingTag? (passed ++ '>' :: rest) = (titleLevel? tag).map (⟨closing, ·, rest⟩))
    (hopen : '<' ∉ passed) (hclose : '>' ∉ passed) :
    afterHeading? level nested false ('<' :: (passed ++ '>' :: rest)) =
      if titleLevel? tag = some level then
        if closing then afterEnding? level nested rest
        else afterHeading? level (nested + 1) false rest
      else afterHeading? level nested false rest := by
  have hinTag (n : Nat) := afterHeading?_inTag level n hclose rest
  rw [afterHeading?, if_neg (by decide), hread]
  cases htitle : titleLevel? tag with
  | none =>
      have hall : '<' ∉ passed ++ ['>'] := by simp [hopen]
      simpa using afterHeading?_pass level nested hall rest
  | some other =>
      by_cases hsame : other = level
      · subst hsame
        cases closing with
        | false => simpa using hinTag (nested + 1)
        | true =>
            cases nested with
            | zero => simp [afterEnding?]
            | succ nested => simpa [afterEnding?] using hinTag nested
      · simpa [hsame] using hinTag nested

theorem afterHeading?_opening {tag : String} {attributes : List Attribute}
    (h : (Piece.opening tag attributes).Plain) (rest : List Char) :
    afterHeading? level nested false ((Piece.opening tag attributes).chars ++ rest) =
      afterHeading? level (if titleLevel? tag = some level then nested + 1 else nested) false
        rest := by
  obtain ⟨inside, heq, hhead, hopen, hclose⟩ := exists_inside h
  have hchars : (Piece.opening tag attributes).chars ++ rest =
      '<' :: (tag.toList ++ inside ++ '>' :: rest) := by
    simp [Piece.chars, heq]
  have hname := not_mem_name h.1
  have hread := headingTag?_opening h.1 hhead hclose rest
  rw [← List.append_assoc] at hread
  rw [hchars, afterHeading?_tag level nested hread (by simp [hname, hopen]) (by simp [hname, hclose])]
  split <;> rfl

theorem afterHeading?_ending {tag : String} (h : isPlainName tag = true) (rest : List Char) :
    afterHeading? level nested false ((Piece.ending tag).chars ++ rest) =
      if titleLevel? tag = some level then afterEnding? level nested rest
      else afterHeading? level nested false rest := by
  have hchars : (Piece.ending tag).chars ++ rest = '<' :: ('/' :: tag.toList ++ '>' :: rest) := by
    simp [Piece.chars]
  have hname := not_mem_name h
  rw [hchars, afterHeading?_tag level nested (headingTag?_ending h rest) (by simp [hname])
    (by simp [hname]), if_pos rfl]

theorem afterHeading?_content {tag : String} (htag : isPlainName tag = true)
    {children : List Node}
    (hpass : ∀ rest, afterHeading? level nested false
      ((pieces children).flatMap Piece.chars ++ rest) = afterHeading? level nested false rest)
    (rest : List Char) :
    afterHeading? level nested false
        ((guardPieces tag children ++ (pieces children ++ [Piece.ending tag])).flatMap Piece.chars ++
          rest) =
      if titleLevel? tag = some level then afterEnding? level nested rest
      else afterHeading? level nested false rest := by
  have hguard : '<' ∉ (guardPieces tag children).flatMap Piece.chars := by
    unfold guardPieces
    split <;> decide
  rw [List.flatMap_append, List.flatMap_append, List.flatMap_singleton, List.append_assoc,
    List.append_assoc, afterHeading?_pass level nested hguard, hpass,
    afterHeading?_ending level nested htag]

end Search

mutual

/-- The tags of a node are balanced, so the search comes out of it as it went in. -/
theorem afterHeading?_node (level : Char) (nested : Nat) (rest : List Char) :
    ∀ node, (∀ e ∈ Node.elements node, e.Plain) →
      afterHeading? level nested false (node.pieces.flatMap Piece.chars ++ rest) =
        afterHeading? level nested false rest
  | .text content, _ => by
      have hchars : (Node.text content).pieces.flatMap Piece.chars =
          content.toList.flatMap textChar := by
        rw [Node.pieces, List.flatMap_map]
        rfl
      rw [hchars, afterHeading?_pass level nested (open_not_mem_text _)]
  | .element tag attributes children, h => by
      rw [elements_element] at h
      have htag : Element.Plain ⟨tag, attributes⟩ := h _ (by simp)
      have hchildren : ∀ e ∈ elements children, e.Plain := fun e he => h e (by simp [he])
      rw [Node.pieces]
      split
      next hvoid =>
        rw [List.flatMap_singleton, afterHeading?_opening level nested htag,
          titleLevel?_of_isVoid hvoid, if_neg (by simp)]
      · rw [List.flatMap_cons, List.append_assoc, afterHeading?_opening level nested htag,
          afterHeading?_content level _ htag.1 fun rest =>
            afterHeading?_pieces level _ rest children hchildren]
        by_cases htitle : titleLevel? tag = some level
        · rw [if_pos htitle, if_pos htitle, afterEnding?]
        · rw [if_neg htitle, if_neg htitle]

theorem afterHeading?_pieces (level : Char) (nested : Nat) (rest : List Char) :
    ∀ nodes, (∀ e ∈ elements nodes, e.Plain) →
      afterHeading? level nested false ((pieces nodes).flatMap Piece.chars ++ rest) =
        afterHeading? level nested false rest
  | [], _ => by
      rw [pieces]
      rfl
  | node :: more, h => by
      rw [elements_cons] at h
      rw [pieces, List.flatMap_append, List.append_assoc,
        afterHeading?_node level nested _ node fun e he => h e (List.mem_append_left _ he),
        afterHeading?_pieces level nested rest more fun e he => h e (List.mem_append_right _ he)]

end

/-! ## The title -/

theorem textChar_of_isBlank {c : Char} (h : Text.isBlank c = true) : textChar c = [c] := by
  rcases textChar_cases c with heq | ⟨-, -, -, hhead⟩
  · exact heq
  · unfold textChar at hhead ⊢
    split
    next hc => exact absurd h (by rw [hc]; decide)
    · split
      next hc => exact absurd h (by rw [hc]; decide)
      · split
        next hc => exact absurd h (by rw [hc]; decide)
        · rfl

theorem afterLeadingTitle?_blank {c : Char} (h : Text.isBlank c = true) (cs : List Char) :
    afterLeadingTitle? (c :: cs) = afterLeadingTitle? cs := by
  rw [afterLeadingTitle?, afterLeadingTitle?, List.dropWhile_cons_of_pos h]

/-- Text in front of a heading must be blank. -/
theorem afterLeadingTitle?_text (cs rest : List Char) :
    afterLeadingTitle? (cs.flatMap textChar ++ rest) =
      if cs.all Text.isBlank then afterLeadingTitle? rest else none := by
  induction cs with
  | nil => rfl
  | cons c cs ih =>
      cases hblank : Text.isBlank c with
      | true =>
          rw [List.flatMap_cons, textChar_of_isBlank hblank, List.append_assoc,
            List.singleton_append, afterLeadingTitle?_blank hblank, ih, List.all_cons, hblank,
            Bool.true_and]
      | false =>
          have hnone : ∀ d ds, Text.isBlank d = false → d ≠ '<' →
              afterLeadingTitle? (d :: ds) = none := by
            intro d ds hd hopen
            rw [afterLeadingTitle?, List.dropWhile_cons_of_neg (by simp [hd])]
            split
            next heq => exact absurd (List.cons.inj heq).1 hopen
            · rfl
          rw [List.all_cons, hblank, Bool.false_and, if_neg (by decide), List.flatMap_cons,
            List.append_assoc]
          rcases textChar_cases c with heq | ⟨-, -, -, hhead⟩
          · have hopen : c ≠ '<' := by
              rintro rfl
              exact absurd heq (by decide)
            rw [heq]
            exact hnone c _ hblank hopen
          · obtain ⟨escape, hescape⟩ := exists_escape_of_head hhead
            rw [hescape]
            exact hnone '&' _ (by decide) (by decide)

theorem afterLeadingTitle?_opening {tag : String} {attributes : List Attribute}
    (h : (Piece.opening tag attributes).Plain) (rest : List Char) :
    afterLeadingTitle? ((Piece.opening tag attributes).chars ++ rest) =
      (titleLevel? tag).bind (afterHeading? · 0 false rest) := by
  obtain ⟨inside, heq, hhead, -, hclose⟩ := exists_inside h
  have hchars : (Piece.opening tag attributes).chars ++ rest =
      '<' :: (tag.toList ++ (inside ++ '>' :: rest)) := by
    simp [Piece.chars, heq]
  have hcs : ∃ c more, inside ++ '>' :: rest = c :: more ∧ isPlainChar c = false := by
    obtain ⟨c, more, hmore, hc⟩ := exists_head_after_name attributes tag rest
    rw [← List.append_assoc, heq, List.append_assoc, List.singleton_append] at hmore
    exact ⟨c, more, hmore, hc⟩
  rw [hchars, afterLeadingTitle?, List.dropWhile_cons_of_neg (by decide)]
  simp only
  rw [headingName?_name h.1 false hcs (tagEnd?_inside hhead hclose rest)]
  cases titleLevel? tag <;> rfl

/-- An element is a title exactly if it is a heading of level 1 or 2, and the title ends with it. -/
theorem afterLeadingTitle?_element {tag : String} {attributes : List Attribute}
    {children : List Node} (h : ∀ e ∈ (Node.element tag attributes children).elements, e.Plain)
    (rest : List Char) :
    afterLeadingTitle? ((Node.element tag attributes children).pieces.flatMap Piece.chars ++ rest) =
      if tag = "h1" ∨ tag = "h2" then some rest else none := by
  rw [elements_element] at h
  have htag : Element.Plain ⟨tag, attributes⟩ := h _ (by simp)
  have hchildren : ∀ e ∈ elements children, e.Plain := fun e he => h e (by simp [he])
  by_cases hheading : tag = "h1" ∨ tag = "h2"
  · obtain ⟨level, hlevel, -, -⟩ := exists_titleLevel hheading
    have hvoid : ¬ isVoid tag = true := by
      intro hvoid
      rw [titleLevel?_of_isVoid hvoid] at hlevel
      cases hlevel
    rw [Node.pieces, if_neg hvoid, List.flatMap_cons, List.append_assoc,
      afterLeadingTitle?_opening htag, hlevel, Option.bind_some,
      afterHeading?_content level 0 htag.1 fun rest =>
        afterHeading?_pieces level 0 rest children hchildren, if_pos hlevel, if_pos hheading,
      afterEnding?]
  · rw [if_neg hheading, Node.pieces]
    split
    · rw [List.flatMap_singleton, afterLeadingTitle?_opening htag, titleLevel?_eq_none hheading,
        Option.bind_none]
    · rw [List.flatMap_cons, List.append_assoc, afterLeadingTitle?_opening htag,
        titleLevel?_eq_none hheading, Option.bind_none]

theorem afterLeadingTitle?_pieces {nodes : List Node} (h : ∀ e ∈ elements nodes, e.Plain) :
    afterLeadingTitle? ((pieces nodes).flatMap Piece.chars) =
      (afterTitle? nodes).map fun rest => (pieces rest).flatMap Piece.chars := by
  induction nodes with
  | nil =>
      rw [pieces]
      rfl
  | cons node rest ih =>
      rw [elements_cons] at h
      have hrest := ih fun e he => h e (List.mem_append_right _ he)
      rw [pieces, List.flatMap_append]
      cases node with
      | text content =>
          rw [Node.pieces, List.flatMap_map]
          have htext := afterLeadingTitle?_text content.toList ((pieces rest).flatMap Piece.chars)
          rw [hrest] at htext
          rw [afterTitle?]
          refine htext.trans ?_
          split <;> rfl
      | element tag attributes children =>
          rw [afterLeadingTitle?_element fun e he => h e (List.mem_append_left _ he), afterTitle?]
          split <;> rfl

/-- **Stripping the title of a written forest strips the title of the forest.** -/
theorem stripLeadingTitle_write {nodes : List Node} (h : ∀ e ∈ elements nodes, e.Plain) :
    stripLeadingTitle (write nodes) = write (withoutTitle nodes) := by
  rw [stripLeadingTitle, toList_write, afterLeadingTitle?_pieces h, withoutTitle]
  cases afterTitle? nodes with
  | none => rfl
  | some rest =>
      apply String.toList_inj.1
      rw [Option.map_some, Option.getD_some, toList_write]
      simp

end SafeReadme.Page
