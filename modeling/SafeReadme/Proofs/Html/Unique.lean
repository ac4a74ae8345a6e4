import SafeReadme.Proofs.Html.Tokens

/-!
# What is written determines what was written

No two sequences of pieces with plain names have the same written form: every character of text and
every tag can be told from what stands there.
-/

namespace SafeReadme.Html

/-! ## Characters -/

def decodeFirst : List Char → Option (Char × List Char)
  | '&' :: 'l' :: 't' :: ';' :: cs => some ('<', cs)
  | '&' :: 'g' :: 't' :: ';' :: cs => some ('>', cs)
  | '&' :: 'a' :: 'm' :: 'p' :: ';' :: cs => some ('&', cs)
  | '&' :: 'q' :: 'u' :: 'o' :: 't' :: ';' :: cs => some ('"', cs)
  | '&' :: '#' :: '3' :: '9' :: ';' :: cs => some ('\x27', cs)
  | c :: cs => if c = '&' then none else some (c, cs)
  | [] => none

theorem decodeFirst_cons {c : Char} (hc : c ≠ '&') (rest : List Char) :
    decodeFirst (c :: rest) = some (c, rest) := by
  unfold decodeFirst
  split
  case h_6 heq =>
    cases heq
    rw [if_neg hc]
  case h_7 heq => cases heq
  all_goals
    next heq => exact absurd (List.cons.inj heq).1 hc

theorem decodeFirst_textChar (c : Char) (rest : List Char) :
    decodeFirst (textChar c ++ rest) = some (c, rest) := by
  unfold textChar
  split
  next h =>
    subst h
    rfl
  · split
    next h =>
      subst h
      rfl
    · split
      next h =>
        subst h
        rfl
      next hamp => exact decodeFirst_cons hamp rest

theorem decodeFirst_valueChar (c : Char) (rest : List Char) :
    decodeFirst (valueChar c ++ rest) = some (c, rest) := by
  unfold valueChar
  split
  next h =>
    subst h
    rfl
  · split
    next h =>
      subst h
      rfl
    · exact decodeFirst_textChar c rest

theorem textChar_append_inj {c d : Char} {x y : List Char}
    (h : textChar c ++ x = textChar d ++ y) : c = d ∧ x = y := by
  have hdecoded := congrArg decodeFirst h
  rw [decodeFirst_textChar, decodeFirst_textChar, Option.some.injEq, Prod.mk.injEq] at hdecoded
  exact hdecoded

theorem valueChar_append_inj {c d : Char} {x y : List Char}
    (h : valueChar c ++ x = valueChar d ++ y) : c = d ∧ x = y := by
  have hdecoded := congrArg decodeFirst h
  rw [decodeFirst_valueChar, decodeFirst_valueChar, Option.some.injEq, Prod.mk.injEq] at hdecoded
  exact hdecoded

theorem valueChar_append_ne_quote {c : Char} {x y : List Char} :
    valueChar c ++ x ≠ '"' :: y := by
  intro h
  rcases valueChar_cases c with heq | ⟨-, -, -, hhead⟩
  · rw [heq] at h
    cases h
    exact absurd heq (by decide)
  · obtain ⟨escape, hescape⟩ := exists_escape_of_head hhead
    rw [hescape] at h
    cases h

/-- Codes that can be told from each other in front, and from what ends a text, determine what was
coded. -/
theorem flatMap_append_inj {α : Type} {f : α → List Char} {Q : α → Prop} {x y : List Char}
    (hfront : ∀ {a b z t}, Q a → Q b → f a ++ z = f b ++ t → a = b ∧ z = t)
    (hx : ∀ {a z}, Q a → f a ++ z ≠ x) (hy : ∀ {a z}, Q a → f a ++ z ≠ y)
    {v w : List α} (hv : ∀ a ∈ v, Q a) (hw : ∀ b ∈ w, Q b)
    (h : v.flatMap f ++ x = w.flatMap f ++ y) : v = w ∧ x = y := by
  induction v generalizing w with
  | nil =>
      cases w with
      | nil => exact ⟨rfl, h⟩
      | cons b w =>
          rw [List.flatMap_cons, List.append_assoc] at h
          exact absurd h.symm (hx (hw b (by simp)))
  | cons a v ih =>
      cases w with
      | nil =>
          rw [List.flatMap_cons, List.append_assoc] at h
          exact absurd h (hy (hv a (by simp)))
      | cons b w =>
          rw [List.flatMap_cons, List.flatMap_cons, List.append_assoc, List.append_assoc] at h
          obtain ⟨rfl, hrest⟩ := hfront (hv a (by simp)) (hw b (by simp)) h
          obtain ⟨rfl, hend⟩ := ih (fun a' ha' => hv a' (List.mem_cons_of_mem _ ha'))
            (fun b' hb' => hw b' (List.mem_cons_of_mem _ hb')) hrest
          exact ⟨rfl, hend⟩

theorem value_inj {v w x y : List Char}
    (h : v.flatMap valueChar ++ '"' :: x = w.flatMap valueChar ++ '"' :: y) : v = w ∧ x = y := by
  obtain ⟨hvalue, hend⟩ := flatMap_append_inj (Q := fun _ => True)
    (fun _ _ => valueChar_append_inj) (fun _ => valueChar_append_ne_quote)
    (fun _ => valueChar_append_ne_quote) (fun _ _ => trivial) (fun _ _ => trivial) h
  exact ⟨hvalue, (List.cons.inj hend).2⟩

/-! ## Names -/

/-- Plain characters end where a character stands that is not plain. -/
theorem name_inj {v w : List Char} {c d : Char} {x y : List Char}
    (hv : ∀ e ∈ v, isPlainChar e = true) (hw : ∀ e ∈ w, isPlainChar e = true)
    (hc : isPlainChar c = false) (hd : isPlainChar d = false)
    (h : v ++ c :: x = w ++ d :: y) : v = w ∧ c :: x = d :: y := by
  have htake : ∀ {u : List Char} {e : Char} {z : List Char}, (∀ f ∈ u, isPlainChar f = true) →
      isPlainChar e = false → (u ++ e :: z).takeWhile isPlainChar = u := by
    intro u e z hu he
    rw [List.takeWhile_append_of_pos hu, List.takeWhile_cons_of_neg (by simp [he]),
      List.append_nil]
  have hname : v = w := by
    rw [← htake (z := x) hv hc, h, htake hw hd]
  subst hname
  exact ⟨rfl, List.append_cancel_left h⟩

/-! ## Tags -/

theorem chars_attribute_append (a : Attribute) (rest : List Char) :
    a.chars ++ rest =
      ' ' :: (a.name.toList ++ '=' :: '"' :: (a.value.toList.flatMap valueChar ++ '"' :: rest)) := by
  simp [Attribute.chars]

theorem attribute_inj {a b : Attribute} {x y : List Char} (ha : isPlainName a.name = true)
    (hb : isPlainName b.name = true) (h : a.chars ++ x = b.chars ++ y) : a = b ∧ x = y := by
  rw [chars_attribute_append, chars_attribute_append] at h
  obtain ⟨hname, hrest⟩ := name_inj (plain_of_isPlainName ha) (plain_of_isPlainName hb)
    (by decide) (by decide) (List.cons.inj h).2
  obtain ⟨hvalue, rfl⟩ := value_inj (List.cons.inj (List.cons.inj hrest).2).2
  refine ⟨?_, rfl⟩
  cases a
  cases b
  rw [String.toList_inj] at hname hvalue
  simp only at hname hvalue
  rw [hname, hvalue]

/-- What closes a start tag is no attribute. -/
theorem chars_attribute_ne_bracketOf {a : Attribute} {tag : String} {x y : List Char}
    (ha : isPlainName a.name = true) : a.chars ++ x ≠ bracketOf tag ++ y := by
  obtain ⟨c, cs, hchars, -, hplain⟩ := isPlainName_iff.1 ha
  intro h
  rw [chars_attribute_append, hchars] at h
  unfold bracketOf at h
  split at h
  · have hslash : c = '/' := (List.cons.inj (List.cons.inj h).2).1
    subst hslash
    exact absurd (hplain '/' (by simp)) (by decide)
  · exact absurd (List.cons.inj h).1 (by decide)

theorem attributes_inj {v w : List Attribute} {tag : String} {x y : List Char}
    (hv : ∀ a ∈ v, isPlainName a.name = true) (hw : ∀ a ∈ w, isPlainName a.name = true)
    (h : v.flatMap Attribute.chars ++ (bracketOf tag ++ x) =
      w.flatMap Attribute.chars ++ (bracketOf tag ++ y)) : v = w ∧ x = y := by
  obtain ⟨hattributes, hend⟩ := flatMap_append_inj attribute_inj chars_attribute_ne_bracketOf
    chars_attribute_ne_bracketOf hv hw h
  exact ⟨hattributes, List.append_cancel_left hend⟩

/-- What follows the name in a start tag is not part of it. -/
theorem exists_head_after_name (attributes : List Attribute) (tag : String) (rest : List Char) :
    ∃ c more, attributes.flatMap Attribute.chars ++ (bracketOf tag ++ rest) = c :: more ∧
      isPlainChar c = false := by
  cases attributes with
  | nil =>
      unfold bracketOf
      split
      · exact ⟨' ', _, rfl, by decide⟩
      · exact ⟨'>', _, rfl, by decide⟩
  | cons a rest => exact ⟨' ', _, rfl, by decide⟩

/-! ## Pieces -/

theorem textChar_append_ne_bracket {c : Char} {x y : List Char} : textChar c ++ x ≠ '<' :: y := by
  intro h
  rcases textChar_cases c with heq | ⟨-, -, -, hhead⟩
  · rw [heq] at h
    cases h
    exact absurd heq (by decide)
  · obtain ⟨escape, hescape⟩ := exists_escape_of_head hhead
    rw [hescape] at h
    cases h

theorem opening_ne_ending {tag other : String} {attributes : List Attribute} {x y : List Char}
    (htag : isPlainName tag = true) :
    (Piece.opening tag attributes).chars ++ x ≠ (Piece.ending other).chars ++ y := by
  obtain ⟨c, cs, hchars, -, hplain⟩ := isPlainName_iff.1 htag
  intro h
  rw [Piece.chars, Piece.chars, hchars] at h
  have hslash : c = '/' := (List.cons.inj (List.cons.inj h).2).1
  subst hslash
  exact absurd (hplain '/' (by simp)) (by decide)

/-- The piece in front of a written text can be told from the text. -/
theorem piece_inj {p q : Piece} {x y : List Char} (hp : p.Plain) (hq : q.Plain)
    (h : p.chars ++ x = q.chars ++ y) : p = q ∧ x = y := by
  cases p with
  | char c =>
      cases q with
      | char d =>
          obtain ⟨rfl, rfl⟩ := textChar_append_inj h
          exact ⟨rfl, rfl⟩
      | opening tag attributes => exact absurd h textChar_append_ne_bracket
      | ending tag => exact absurd h textChar_append_ne_bracket
  | opening tag attributes =>
      cases q with
      | char d => exact absurd h.symm textChar_append_ne_bracket
      | opening other attributes' =>
          simp only [Piece.chars, List.cons_append, List.append_assoc] at h
          have hrest := (List.cons.inj h).2
          obtain ⟨c, more, hmore, hc⟩ := exists_head_after_name attributes tag x
          obtain ⟨d, more', hmore', hd⟩ := exists_head_after_name attributes' other y
          rw [hmore, hmore'] at hrest
          obtain ⟨hname, htail⟩ := name_inj (plain_of_isPlainName hp.1)
            (plain_of_isPlainName hq.1) hc hd hrest
          rw [String.toList_inj] at hname
          subst hname
          rw [← hmore, ← hmore'] at htail
          obtain ⟨rfl, rfl⟩ := attributes_inj hp.2.1 hq.2.1 htail
          exact ⟨rfl, rfl⟩
      | ending other => exact absurd h (opening_ne_ending hp.1)
  | ending tag =>
      cases q with
      | char d => exact absurd h.symm textChar_append_ne_bracket
      | opening other attributes => exact absurd h.symm (opening_ne_ending hq.1)
      | ending other =>
          simp only [Piece.chars, List.cons_append, List.append_assoc, List.nil_append] at h
          obtain ⟨hname, htail⟩ := name_inj (plain_of_isPlainName hp) (plain_of_isPlainName hq)
            (by decide) (by decide) (List.cons.inj (List.cons.inj h).2).2
          rw [String.toList_inj] at hname
          subst hname
          cases htail
          exact ⟨rfl, rfl⟩

/-- **The written form of plain pieces determines them.** -/
theorem flatMap_chars_inj {ps qs : List Piece} (hp : ∀ p ∈ ps, p.Plain) (hq : ∀ q ∈ qs, q.Plain)
    (h : ps.flatMap Piece.chars = qs.flatMap Piece.chars) : ps = qs := by
  have hend : ∀ {p : Piece} {z : List Char}, p.Plain → p.chars ++ z ≠ [] :=
    fun _ hnil => chars_ne_nil _ (List.append_eq_nil_iff.1 hnil).1
  rw [← List.append_nil (ps.flatMap Piece.chars), ← List.append_nil (qs.flatMap Piece.chars)] at h
  exact (flatMap_append_inj piece_inj hend hend hp hq h).1

end SafeReadme.Html
