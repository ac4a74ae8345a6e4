import SafeReadme.Proofs.Html.Written

/-!
# Line breaks in written documents

Before a reader cuts a document into tokens, it drops a byte order mark and unifies line breaks. Both
can be done to the pieces of a written document instead of to its characters: a line break of two
characters lies in one value or in the text between two tags.
-/

namespace SafeReadme.Html

/-! ## Unifying -/

theorem normalizeNewlines_of_not_mem {cs : List Char} (h : '\r' ∉ cs) :
    normalizeNewlines cs = cs := by
  induction cs with
  | nil => rfl
  | cons c rest ih =>
      rw [List.mem_cons, not_or] at h
      rw [normalizeNewlines, if_neg (Ne.symm h.1), ih h.2]
      rintro cs rfl
      exact absurd rfl h.1

/-- Line breaks are unified on both sides of a place where no line break is cut. -/
theorem normalizeNewlines_append {a b : List Char}
    (h : a.getLast? ≠ some '\r' ∨ b.head? ≠ some '\n') :
    normalizeNewlines (a ++ b) = normalizeNewlines a ++ normalizeNewlines b := by
  induction a using normalizeNewlines.induct with
  | case1 => rfl
  | case2 cs ih =>
      have h' : cs.getLast? ≠ some '\r' ∨ b.head? ≠ some '\n' := by
        refine h.imp_left fun hlast hcs => hlast ?_
        rw [List.getLast?_cons, List.getLast?_cons, hcs]
        rfl
      rw [List.cons_append, List.cons_append, normalizeNewlines, normalizeNewlines, ih h',
        List.cons_append]
  | case3 c cs hwhole ih =>
      have h' : cs.getLast? ≠ some '\r' ∨ b.head? ≠ some '\n' := by
        refine h.imp_left fun hlast hcs => hlast ?_
        rw [List.getLast?_cons, hcs]
        rfl
      rw [List.cons_append, normalizeNewlines, normalizeNewlines, ih h', List.cons_append]
      · exact hwhole
      · -- A line break that `c` starts would end in `b`.
        intro rest hc hrest
        cases cs with
        | nil =>
            rw [List.nil_append] at hrest
            rcases h with hlast | hhead
            · exact hlast (by rw [hc]; rfl)
            · exact hhead (by rw [hrest]; rfl)
        | cons d more =>
            cases hrest
            exact hwhole _ hc rfl

/-! ## Escapes -/

theorem textChar_cases (c : Char) :
    textChar c = [c] ∨ (c ≠ '\r' ∧ c ≠ '\n' ∧ '\r' ∉ textChar c ∧ (textChar c).head? = some '&') := by
  unfold textChar
  split
  next h =>
    subst h
    exact .inr (by decide)
  · split
    next h =>
      subst h
      exact .inr (by decide)
    · split
      next h =>
        subst h
        exact .inr (by decide)
      · exact .inl rfl

theorem valueChar_cases (c : Char) :
    valueChar c = [c] ∨
      (c ≠ '\r' ∧ c ≠ '\n' ∧ '\r' ∉ valueChar c ∧ (valueChar c).head? = some '&') := by
  unfold valueChar
  split
  next h =>
    subst h
    exact .inr (by decide)
  · split
    next h =>
      subst h
      exact .inr (by decide)
    · exact textChar_cases c

theorem head_valueChar {c d : Char} (h : (valueChar c).head? = some d) (hd : d ≠ '&') : c = d := by
  rcases valueChar_cases c with heq | ⟨-, -, -, hhead⟩
  · rw [heq] at h
    simpa using h
  · rw [hhead] at h
    exact absurd (Option.some.inj h).symm hd

theorem head_flatMap_valueChar {cs : List Char} {d : Char}
    (h : (cs.flatMap valueChar).head? = some d) (hd : d ≠ '&') : cs.head? = some d := by
  cases cs with
  | nil => cases h
  | cons c rest =>
      rw [List.flatMap_cons, List.head?_append] at h
      cases hhead : (valueChar c).head? with
      | none =>
          rcases valueChar_cases c with heq | ⟨-, -, -, hamp⟩
          · rw [heq] at hhead
            cases hhead
          · rw [hamp] at hhead
            cases hhead
      | some d' =>
          rw [hhead] at h
          cases h
          rw [head_valueChar hhead hd]
          rfl

/-- Unifying line breaks and escaping a value can be done in either order. -/
theorem normalizeNewlines_flatMap_valueChar (cs : List Char) :
    normalizeNewlines (cs.flatMap valueChar) = (normalizeNewlines cs).flatMap valueChar := by
  induction cs using normalizeNewlines.induct with
  | case1 => rfl
  | case2 cs ih =>
      have hreturn : valueChar '\r' = ['\r'] := by decide
      have hnewline : valueChar '\n' = ['\n'] := by decide
      rw [List.flatMap_cons, List.flatMap_cons, hreturn, hnewline, List.singleton_append,
        List.singleton_append, normalizeNewlines, ih, normalizeNewlines, List.flatMap_cons, hnewline,
        List.singleton_append]
  | case3 c cs hwhole ih =>
      rw [List.flatMap_cons, normalizeNewlines_append, ih, normalizeNewlines, List.flatMap_cons]
      · congr 1
        rcases valueChar_cases c with heq | ⟨hreturn, -, hnot, -⟩
        · rw [heq]
          by_cases hc : c = '\r'
          · subst hc
            decide
          · rw [if_neg hc, heq, normalizeNewlines_of_not_mem (by simpa using Ne.symm hc)]
        · rw [if_neg hreturn, normalizeNewlines_of_not_mem hnot]
      · exact hwhole
      · by_cases hc : c = '\r'
        · right
          intro hhead
          cases hcs : cs with
          | nil => simp [hcs] at hhead
          | cons d rest =>
              have hd := head_flatMap_valueChar hhead (by decide)
              rw [hcs] at hd
              cases hd
              exact hwhole rest hc hcs
        · left
          intro hlast
          have hmem := List.mem_of_getLast? hlast
          rcases valueChar_cases c with heq | ⟨-, -, hnot, -⟩
          · rw [heq] at hmem
            exact hc (List.mem_singleton.1 hmem).symm
          · exact hnot hmem

/-! ## Pieces -/

def Attribute.unify (a : Attribute) : Attribute :=
  ⟨a.name, String.ofList (normalizeNewlines a.value.toList)⟩

/-- A piece, not part of a line break with another, whose line breaks are unified. -/
def Piece.unify : Piece → Piece
  | .char c => .char (if c = '\r' then '\n' else c)
  | .opening tag attributes => .opening tag (attributes.map Attribute.unify)
  | .ending tag => .ending tag

def unifyPieces : List Piece → List Piece
  | [] => []
  | .char '\r' :: .char '\n' :: ps => .char '\n' :: unifyPieces ps
  | p :: ps => p.unify :: unifyPieces ps

def Piece.Unbroken : Piece → Prop
  | .char _ => True
  | .opening tag attributes => '\r' ∉ tag.toList ∧ ∀ a ∈ attributes, '\r' ∉ a.name.toList
  | .ending tag => '\r' ∉ tag.toList

theorem normalizeNewlines_chars_attribute {a : Attribute} (h : '\r' ∉ a.name.toList) :
    normalizeNewlines a.chars = a.unify.chars := by
  have hfront : '\r' ∉ ' ' :: (a.name.toList ++ ['=', '"']) := by simp [h]
  have hsplit : ∀ b : Attribute, b.chars =
      (' ' :: (b.name.toList ++ ['=', '"'])) ++ (b.value.toList.flatMap valueChar ++ ['"']) := by
    intro b
    simp [Attribute.chars]
  rw [hsplit, hsplit a.unify,
    normalizeNewlines_append (.inl fun hlast => hfront (List.mem_of_getLast? hlast)),
    normalizeNewlines_of_not_mem hfront, normalizeNewlines_append (.inr (by simp)),
    normalizeNewlines_flatMap_valueChar]
  simp [Attribute.unify, normalizeNewlines]

theorem normalizeNewlines_flatMap_chars {attributes : List Attribute}
    (h : ∀ a ∈ attributes, '\r' ∉ a.name.toList) :
    normalizeNewlines (attributes.flatMap Attribute.chars) =
      (attributes.map Attribute.unify).flatMap Attribute.chars := by
  induction attributes with
  | nil => rfl
  | cons a rest ih =>
      have hlast : a.chars.getLast? ≠ some '\r' := by simp [Attribute.chars, List.getLast?_cons]
      rw [List.flatMap_cons, normalizeNewlines_append (.inl hlast),
        normalizeNewlines_chars_attribute (h a (by simp)),
        ih fun b hb => h b (List.mem_cons_of_mem _ hb)]
      rfl

theorem normalizeNewlines_bracketOf (tag : String) :
    normalizeNewlines (bracketOf tag) = bracketOf tag := by
  unfold bracketOf
  split <;> rfl

theorem head_bracketOf (tag : String) : (bracketOf tag).head? ≠ some '\n' := by
  unfold bracketOf
  split <;> decide

theorem getLast_bracketOf (tag : String) : (bracketOf tag).getLast? = some '>' := by
  unfold bracketOf
  split <;> rfl

theorem normalizeNewlines_chars {p : Piece} (h : p.Unbroken) :
    normalizeNewlines p.chars = p.unify.chars := by
  cases p with
  | char c =>
      rcases textChar_cases c with heq | ⟨hreturn, -, hnot, -⟩
      · rw [Piece.chars, heq, Piece.unify, Piece.chars]
        by_cases hc : c = '\r'
        · subst hc
          decide
        · rw [if_neg hc, heq, normalizeNewlines_of_not_mem (by simpa using Ne.symm hc)]
      · rw [Piece.unify, if_neg hreturn, Piece.chars, normalizeNewlines_of_not_mem hnot]
  | opening tag attributes =>
      have hfront : '\r' ∉ '<' :: tag.toList := by simp [h.1]
      have hmiddle := normalizeNewlines_flatMap_chars h.2
      rw [Piece.chars, ← List.cons_append, normalizeNewlines_append, normalizeNewlines_append,
        normalizeNewlines_of_not_mem hfront, hmiddle, normalizeNewlines_bracketOf]
      · rfl
      · exact .inr (head_bracketOf tag)
      · left
        intro hlast
        exact hfront (List.mem_of_getLast? hlast)
  | ending tag =>
      have hall : '\r' ∉ '<' :: '/' :: (tag.toList ++ ['>']) := by
        have htag : '\r' ∉ tag.toList := h
        simp [htag]
      rw [Piece.chars, normalizeNewlines_of_not_mem hall]
      rfl

theorem eq_char_of_getLast {p : Piece} (h : p.chars.getLast? = some '\r') : p = .char '\r' := by
  cases p with
  | char c =>
      have hmem := List.mem_of_getLast? h
      rcases textChar_cases c with heq | ⟨-, -, hnot, -⟩
      · rw [Piece.chars, heq, List.mem_singleton] at hmem
        rw [← hmem]
      · exact absurd hmem hnot
  | opening tag attributes =>
      rw [Piece.chars, ← List.cons_append, ← List.append_assoc, List.getLast?_append,
        getLast_bracketOf] at h
      cases h
  | ending tag =>
      rw [Piece.chars, ← List.cons_append, ← List.cons_append, List.getLast?_append] at h
      cases h

theorem head_chars {p : Piece} {d : Char} (h : p.chars.head? = some d) (hamp : d ≠ '&')
    (hbracket : d ≠ '<') : p = .char d := by
  cases p with
  | char c =>
      rcases textChar_cases c with heq | ⟨-, -, -, hhead⟩
      · rw [Piece.chars, heq] at h
        cases h
        rfl
      · rw [Piece.chars, hhead] at h
        exact absurd (Option.some.inj h).symm hamp
  | opening tag attributes => exact absurd (Option.some.inj h).symm hbracket
  | ending tag => exact absurd (Option.some.inj h).symm hbracket

theorem chars_ne_nil (p : Piece) : p.chars ≠ [] := by
  cases p with
  | char c =>
      rcases textChar_cases c with heq | ⟨-, -, -, hhead⟩
      · rw [Piece.chars, heq]
        simp
      · intro hnil
        rw [Piece.chars] at hnil
        rw [hnil] at hhead
        cases hhead
  | opening tag attributes => simp [Piece.chars]
  | ending tag => simp [Piece.chars]

/-- A written text starts with a character that needs no escape only if that is its first piece. -/
theorem head_flatMap_chars {ps : List Piece} {d : Char}
    (h : (ps.flatMap Piece.chars).head? = some d) (hamp : d ≠ '&') (hbracket : d ≠ '<') :
    ∃ rest, ps = .char d :: rest := by
  cases ps with
  | nil => cases h
  | cons p rest =>
      rw [List.flatMap_cons, List.head?_append] at h
      cases hhead : p.chars.head? with
      | none => exact absurd (List.head?_eq_none_iff.1 hhead) (chars_ne_nil p)
      | some d' =>
          rw [hhead] at h
          cases h
          exact ⟨rest, by rw [head_chars hhead hamp hbracket]⟩

theorem normalizeNewlines_flatMap_pieces {ps : List Piece} (h : ∀ p ∈ ps, p.Unbroken) :
    normalizeNewlines (ps.flatMap Piece.chars) = (unifyPieces ps).flatMap Piece.chars := by
  induction ps using unifyPieces.induct with
  | case1 => rfl
  | case2 ps ih =>
      have hreturn : (Piece.char '\r').chars = ['\r'] := by decide
      have hnewline : (Piece.char '\n').chars = ['\n'] := by decide
      rw [List.flatMap_cons, List.flatMap_cons, hreturn, hnewline, List.singleton_append,
        List.singleton_append, normalizeNewlines, unifyPieces, List.flatMap_cons, hnewline,
        List.singleton_append, ih fun p hp => h p (by simp [hp])]
  | case3 p ps hwhole ih =>
      rw [List.flatMap_cons, normalizeNewlines_append, normalizeNewlines_chars (h p (by simp)),
        ih fun q hq => h q (by simp [hq]), unifyPieces, List.flatMap_cons]
      · exact hwhole
      · by_cases hp : p = .char '\r'
        · right
          intro hhead
          obtain ⟨rest, hps⟩ := head_flatMap_chars hhead (by decide) (by decide)
          exact hwhole rest hp hps
        · exact .inl fun hlast => hp (eq_char_of_getLast hlast)

theorem mem_unifyPieces {p : Piece} {ps : List Piece} (h : p ∈ unifyPieces ps) :
    ∃ q ∈ ps, p = q.unify := by
  induction ps using unifyPieces.induct with
  | case1 => cases h
  | case2 ps ih =>
      rw [unifyPieces, List.mem_cons] at h
      rcases h with rfl | h
      · exact ⟨.char '\n', by simp, rfl⟩
      · obtain ⟨q, hq, hp⟩ := ih h
        exact ⟨q, by simp [hq], hp⟩
  | case3 p' ps hwhole ih =>
      rw [unifyPieces, List.mem_cons] at h
      · rcases h with rfl | h
        · exact ⟨p', by simp, rfl⟩
        · obtain ⟨q, hq, hp⟩ := ih h
          exact ⟨q, by simp [hq], hp⟩
      · exact hwhole

theorem Piece.unify_opening {tag : String} {attributes : List Attribute}
    (h : ∀ a ∈ attributes, '\r' ∉ a.value.toList) :
    (Piece.opening tag attributes).unify = .opening tag attributes := by
  have hvalues : attributes.map Attribute.unify = attributes := by
    refine map_eq_self fun a ha => ?_
    simp [Attribute.unify, normalizeNewlines_of_not_mem (h a ha)]
  rw [Piece.unify, hvalues]

theorem unifyPieces_eq_self {ps : List Piece} (h : ∀ p ∈ ps, p.unify = p) : unifyPieces ps = ps := by
  induction ps using unifyPieces.induct with
  | case1 => rfl
  | case2 ps ih =>
      have hreturn := h (.char '\r') (by simp)
      simp [Piece.unify] at hreturn
  | case3 p ps hwhole ih =>
      rw [unifyPieces, h p (by simp), ih fun q hq => h q (List.mem_cons_of_mem _ hq)]
      exact hwhole

/-! ## The byte order mark -/

def dropMarkPiece : List Piece → List Piece
  | [] => []
  | p :: ps => if p = .char '\ufeff' then ps else p :: ps

theorem dropMark_flatMap_pieces (ps : List Piece) :
    Builder.dropMark (ps.flatMap Piece.chars) = (dropMarkPiece ps).flatMap Piece.chars := by
  cases ps with
  | nil => rfl
  | cons p rest =>
      have hmark : (Piece.char '\ufeff').chars = ['\ufeff'] := by decide
      rw [dropMarkPiece]
      by_cases hp : p = .char '\ufeff'
      · rw [if_pos hp, hp, List.flatMap_cons, hmark]
        rfl
      · rw [if_neg hp]
        cases hchars : (p :: rest).flatMap Piece.chars with
        | nil => rfl
        | cons c cs =>
            rw [Builder.dropMark, if_neg]
            rintro rfl
            have hhead : ((p :: rest).flatMap Piece.chars).head? = some '\ufeff' := by
              rw [hchars]
              rfl
            obtain ⟨rest', hps⟩ := head_flatMap_chars hhead (by decide) (by decide)
            cases hps
            exact hp rfl

theorem mem_dropMarkPiece {p : Piece} {ps : List Piece} (h : p ∈ dropMarkPiece ps) : p ∈ ps := by
  cases ps with
  | nil => cases h
  | cons q rest =>
      rw [dropMarkPiece] at h
      split at h
      · exact List.mem_cons_of_mem _ h
      · exact h

/-- What a reader of a written forest cuts into tokens. -/
def readPieces (nodes : List Node) : List Piece :=
  unifyPieces (dropMarkPiece (pieces nodes))

theorem construct_write {nodes : List Node} (h : ∀ p ∈ pieces nodes, p.Unbroken) :
    Builder.construct (write nodes).toList =
      Builder.run ((write nodes).toList.length + 1) .start
        ((readPieces nodes).flatMap Piece.chars) := by
  rw [Builder.construct, toList_write, dropMark_flatMap_pieces, normalizeNewlines_flatMap_pieces]
  · rfl
  · exact fun p hp => h p (mem_dropMarkPiece hp)

/-- Every tag that is cut out of a written forest is that of one of its elements. -/
theorem mem_readPieces {nodes : List Node} {p : Piece} (h : p ∈ readPieces nodes) :
    (∃ c, p = .char c) ∨
      ∃ e ∈ elements nodes,
        p = .opening e.tag (e.attributes.map Attribute.unify) ∨ p = .ending e.tag := by
  obtain ⟨q, hq, rfl⟩ := mem_unifyPieces h
  rcases mem_pieces nodes (mem_dropMarkPiece hq) with ⟨c, rfl⟩ | ⟨e, he, rfl | rfl⟩
  · exact .inl ⟨_, rfl⟩
  · exact .inr ⟨e, he, .inl rfl⟩
  · exact .inr ⟨e, he, .inr rfl⟩

end SafeReadme.Html
