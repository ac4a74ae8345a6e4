import SafeReadme.Proofs.Html.StrictReader

/-!
# Written forests are read back

What the strict reader reads from the written form of a forest is the forest, but for what no writing
can tell apart: neighbouring texts, and the content of void elements.
-/

namespace SafeReadme.Html

/-! ## Written pieces are read back -/

theorem readChar?_eq_decodeFirst {delimiters cs : List Char}
    (h : ∀ c ∈ cs.head?, c ∉ delimiters) : readChar? delimiters cs = decodeFirst cs := by
  cases cs with
  | nil => rfl
  | cons c cs =>
      have hc : c ∉ delimiters := h c (by simp)
      rw [readChar?, if_neg (by simpa using hc)]

/-- A character is written as itself or as a reference, and then `&` stands in front. -/
theorem head_not_delimiter {code rest delimiters : List Char} {c : Char}
    (hcode : code = [c] ∨ code.head? = some '&') (hself : code = [c] → c ∉ delimiters)
    (hamp : '&' ∉ delimiters) : ∀ d ∈ (code ++ rest).head?, d ∉ delimiters := by
  intro d hd
  rcases hcode with heq | hhead
  · have hdc : c = d := by simpa [heq] using hd
    exact hdc ▸ hself heq
  · rw [List.head?_append, hhead] at hd
    have hdamp : '&' = d := by simpa using hd
    exact hdamp ▸ hamp

theorem readChar?_textChar (c : Char) (rest : List Char) :
    readChar? textDelimiters (textChar c ++ rest) = some (c, rest) := by
  have hself : textChar c = [c] → c ∉ textDelimiters := by
    intro heq hmem
    simp only [textDelimiters, List.mem_cons, List.not_mem_nil, or_false] at hmem
    rcases hmem with rfl | rfl <;> exact absurd heq (by decide)
  have hcode := (textChar_cases c).imp_right fun h => h.2.2.2
  rw [readChar?_eq_decodeFirst (head_not_delimiter hcode hself (by decide)), decodeFirst_textChar]

theorem readChar?_valueChar (c : Char) (rest : List Char) :
    readChar? valueDelimiters (valueChar c ++ rest) = some (c, rest) := by
  have hself : valueChar c = [c] → c ∉ valueDelimiters := by
    intro heq hmem
    simp only [valueDelimiters, List.mem_cons, List.not_mem_nil, or_false] at hmem
    rcases hmem with rfl | rfl | rfl | rfl <;> exact absurd heq (by decide)
  have hcode := (valueChar_cases c).imp_right fun h => h.2.2.2
  rw [readChar?_eq_decodeFirst (head_not_delimiter hcode hself (by decide)),
    decodeFirst_valueChar]

theorem readValue?_flatMap (value rest : List Char) :
    readValue? (value.flatMap valueChar ++ '"' :: rest) = some (value, rest) := by
  induction value with
  | nil =>
      rw [readValue?]
      simp
  | cons c value ih =>
      have hquote : (valueChar c ++ (value.flatMap valueChar ++ '"' :: rest)).head? ≠ some '"' := by
        intro hhead
        obtain ⟨more, hmore⟩ := List.head?_eq_some_iff.1 hhead
        exact valueChar_append_ne_quote hmore
      rw [List.flatMap_cons, List.append_assoc, readValue?, if_neg hquote]
      split
      next hnone =>
        rw [readChar?_valueChar] at hnone
        cases hnone
      next d more hsome =>
        rw [readChar?_valueChar] at hsome
        cases hsome
        rw [ih]
        rfl

theorem readName?_append {name : String} {c : Char} {rest : List Char}
    (hname : isPlainName name = true) (hc : isPlainChar c = false) :
    readName? (name.toList ++ c :: rest) = some (name, c :: rest) := by
  have hplain := plain_of_isPlainName hname
  have htake : (name.toList ++ c :: rest).takeWhile isPlainChar = name.toList := by
    rw [List.takeWhile_append_of_pos hplain, List.takeWhile_cons_of_neg (by simp [hc]),
      List.append_nil]
  have hdrop : (name.toList ++ c :: rest).dropWhile isPlainChar = c :: rest := by
    rw [List.dropWhile_append_of_pos hplain, List.dropWhile_cons_of_neg (by simp [hc])]
  rw [readName?, htake, hdrop, String.ofList_toList, if_pos hname]

theorem readAttribute?_chars {a : Attribute} (ha : isPlainName a.name = true) (rest : List Char) :
    readAttribute? (a.chars ++ rest) = some (a, rest) := by
  rw [chars_attribute_append, readAttribute?, readName?_append ha (by decide)]
  simp only [readValue?_flatMap, Option.map_some, String.ofList_toList]

theorem readBracket?_bracketOf (tag : String) (rest : List Char) :
    readBracket? tag (bracketOf tag ++ rest) = some rest :=
  List.isPrefixOf?_eq_some_iff_append_eq.2 rfl

theorem readBracket?_attribute {a : Attribute} (ha : isPlainName a.name = true) (tag : String)
    (rest : List Char) : readBracket? tag (a.chars ++ rest) = none := by
  rw [Option.eq_none_iff_forall_ne_some]
  intro more hmore
  exact chars_attribute_ne_bracketOf ha (List.isPrefixOf?_eq_some_iff_append_eq.1 hmore).symm

theorem readAttributes?_flatMap {attributes : List Attribute}
    (h : ∀ a ∈ attributes, isPlainName a.name = true) (tag : String) (rest : List Char) :
    readAttributes? tag (attributes.flatMap Attribute.chars ++ (bracketOf tag ++ rest)) =
      some (attributes, rest) := by
  induction attributes with
  | nil =>
      rw [readAttributes?, List.flatMap_nil, List.nil_append, readBracket?_bracketOf]
  | cons a attributes ih =>
      have ha := h a (by simp)
      rw [List.flatMap_cons, List.append_assoc, readAttributes?, readBracket?_attribute ha]
      simp only
      split
      next hnone =>
        rw [readAttribute?_chars ha] at hnone
        cases hnone
      next b more hsome =>
        rw [readAttribute?_chars ha] at hsome
        cases hsome
        rw [ih fun b hb => h b (List.mem_cons_of_mem _ hb)]
        rfl

theorem readPiece?_char (c : Char) (rest : List Char) :
    readPiece? (textChar c ++ rest) = some (.char c, rest) := by
  rw [readPiece?, readChar?_textChar]
  · rfl
  · exact fun cs h => textChar_append_ne_bracket h
  · exact fun cs h => textChar_append_ne_bracket h

theorem readPiece?_opening {tag : String} {attributes : List Attribute}
    (h : (Piece.opening tag attributes).Plain) (rest : List Char) :
    readPiece? ((Piece.opening tag attributes).chars ++ rest) =
      some (.opening tag attributes, rest) := by
  obtain ⟨c, cs, hchars, -, hplain⟩ := isPlainName_iff.1 h.1
  obtain ⟨d, more, hmore, hd⟩ := exists_head_after_name attributes tag rest
  have hslash : ∀ rest', tag.toList ++ d :: more ≠ '/' :: rest' := by
    intro rest' heq
    rw [hchars] at heq
    have hc : c = '/' := (List.cons.inj heq).1
    exact absurd (hplain c (by simp)) (by rw [hc]; decide)
  simp only [Piece.chars, List.cons_append, List.append_assoc]
  rw [hmore, readPiece?, readName?_append h.1 hd]
  · simp only
    rw [← hmore, readAttributes?_flatMap h.2.1]
    rfl
  · exact fun cs heq => hslash cs heq

theorem readPiece?_ending {tag : String} (h : isPlainName tag = true) (rest : List Char) :
    readPiece? ((Piece.ending tag).chars ++ rest) = some (.ending tag, rest) := by
  simp only [Piece.chars, List.cons_append, List.append_assoc, List.nil_append]
  rw [readPiece?, readName?_append h (by decide)]
  rfl

theorem readPiece?_chars {p : Piece} (h : p.Plain) (rest : List Char) :
    readPiece? (p.chars ++ rest) = some (p, rest) := by
  cases p with
  | char c => exact readPiece?_char c rest
  | opening tag attributes => exact readPiece?_opening h rest
  | ending tag => exact readPiece?_ending h rest

theorem readPieces?_flatMap {ps : List Piece} (h : ∀ p ∈ ps, p.Plain) :
    readPieces? (ps.flatMap Piece.chars) = some ps := by
  induction ps with
  | nil =>
      rw [readPieces?]
      rfl
  | cons p ps ih =>
      have hp := h p (by simp)
      have hne : (p.chars ++ ps.flatMap Piece.chars).isEmpty = false := by
        simp [chars_ne_nil p]
      rw [List.flatMap_cons, readPieces?, hne]
      simp only [Bool.false_eq_true, if_false]
      split
      next hnone =>
        rw [readPiece?_chars hp] at hnone
        cases hnone
      next q more hsome =>
        rw [readPiece?_chars hp] at hsome
        cases hsome
        rw [ih fun q hq => h q (List.mem_cons_of_mem _ hq)]
        rfl

/-! ## What no writing can tell apart -/

/-- Puts a node in front of nodes. Two texts become one. -/
def joinNode : Node → List Node → List Node
  | .text first, .text second :: rest => .text (first ++ second) :: rest
  | node, rest => node :: rest

mutual

/-- A node with neighbouring texts merged and void elements emptied. -/
def Node.merged : Node → Node
  | .text content => .text content
  | .element tag attributes children =>
      .element tag attributes (if isVoid tag then [] else merged children)

def merged : List Node → List Node
  | [] => []
  | node :: rest => joinNode node.merged (merged rest)

end

/-! ## The nesting is found again -/

def putText (content : String) : List Node → List Node
  | .text before :: rest => .text (before ++ content) :: rest
  | rest => .text content :: rest

def putNode (after : List Node) : Node → List Node
  | .text content => putText content after
  | .element tag attributes children => (Node.element tag attributes children).merged :: after

def joinReverse : List Node → List Node → List Node
  | .text first :: before, .text second :: rest =>
      before.reverse ++ .text (first ++ second) :: rest
  | before, rest => before.reverse ++ rest

theorem joinReverse_putNode (after rest : List Node) (node : Node) :
    joinReverse (putNode after node) rest = joinReverse after (joinNode node.merged rest) := by
  cases node with
  | text content =>
      rw [Node.merged, putNode]
      rcases after with _ | ⟨_ | _, after⟩ <;> rcases rest with _ | ⟨_ | _, rest⟩ <;>
        simp [putText, joinNode, joinReverse, String.append_assoc]
  | element tag attributes children =>
      rw [putNode, Node.merged]
      rcases after with _ | ⟨_ | _, after⟩ <;> rcases rest with _ | ⟨_ | _, rest⟩ <;>
        simp [joinNode, joinReverse]

theorem reverse_foldl_putNode (nodes after : List Node) :
    (nodes.foldl putNode after).reverse = joinReverse after (merged nodes) := by
  induction nodes generalizing after with
  | nil =>
      rw [merged]
      rcases after with _ | ⟨_ | _, after⟩ <;> simp [joinReverse]
  | cons node rest ih =>
      rw [List.foldl_cons, ih, merged, joinReverse_putNode]

theorem reverse_foldl_putNode_nil (nodes : List Node) :
    (nodes.foldl putNode []).reverse = merged nodes := by
  rw [reverse_foldl_putNode, joinReverse]
  · rfl
  · simp

theorem nest?_chars (opened : List OpenTag) (before : List Node) (ps : List Piece)
    (start : String) (cs : List Char) :
    nest? false opened (.text start :: before) (cs.map .char ++ ps) =
      nest? false opened (.text (start ++ String.ofList cs) :: before) ps := by
  induction cs generalizing start with
  | nil => simp
  | cons c cs ih =>
      rw [List.map_cons, List.cons_append, nest?, Bool.false_and, if_neg (by decide), putChar, ih,
        push_append_ofList]

theorem nest?_text {content : String} (h : content ≠ "") (opened : List OpenTag)
    (after : List Node) (ps : List Piece) :
    nest? false opened after (content.toList.map .char ++ ps) =
      nest? false opened (putText content after) ps := by
  cases hchars : content.toList with
  | nil => exact absurd (String.toList_eq_nil_iff.1 hchars) h
  | cons c cs =>
      have hcontent : content = String.ofList (c :: cs) := by
        rw [← hchars, String.ofList_toList]
      have hsingle : String.singleton c ++ String.ofList cs = content := by
        rw [← String.toList_inj, hchars]
        simp
      rw [List.map_cons, List.cons_append, nest?, Bool.false_and, if_neg (by decide)]
      rcases after with _ | ⟨_ | _, after⟩
      · rw [putChar, nest?_chars, hsingle, putText]
        · simp
        · simp
      · rw [putChar, nest?_chars, putText, hcontent, push_append_ofList]
      · rw [putChar, nest?_chars, hsingle, putText]
        · simp
        · simp

theorem nest?_fresh {ps : List Piece} (h : ps.head? ≠ some (.char '\n')) (fresh : Bool)
    (opened : List OpenTag) (after : List Node) :
    nest? fresh opened after ps = nest? false opened after ps := by
  cases ps with
  | nil => rfl
  | cons p ps =>
      cases p with
      | char c =>
          have hc : (c == '\n') = false := by simpa using h
          rw [nest?, nest?, hc, Bool.and_false, Bool.and_false]
      | opening tag attributes => rfl
      | ending tag => rfl

theorem head_pieces_of_not_startsWithNewline {nodes : List Node}
    (htexts : ∀ content ∈ texts nodes, content ≠ "") (h : startsWithNewline nodes = false)
    {ps : List Piece} (hps : ps.head? ≠ some (.char '\n')) :
    (pieces nodes ++ ps).head? ≠ some (.char '\n') := by
  rcases nodes with _ | ⟨content | ⟨tag, attributes, children⟩, rest⟩
  · rw [pieces]
    exact hps
  · rw [pieces, Node.pieces]
    cases hchars : content.toList with
    | nil => exact absurd (String.toList_eq_nil_iff.1 hchars) (htexts content (by simp))
    | cons c cs =>
        rw [startsWithNewline, hchars] at h
        simpa using h
  · rw [pieces, Node.pieces]
    split <;> simp

/-- The newline that is written in front of content is the one that is dropped. -/
theorem nest?_guardPieces {tag : String} {children : List Node}
    (htexts : ∀ content ∈ texts children, content ≠ "") (opened : List OpenTag) {ps : List Piece}
    (hps : ps.head? ≠ some (.char '\n')) :
    nest? (dropsNewline tag) opened [] (guardPieces tag children ++ (pieces children ++ ps)) =
      nest? false opened [] (pieces children ++ ps) := by
  unfold guardPieces
  by_cases hdrops : dropsNewline tag = true
  · by_cases hstarts : startsWithNewline children = true
    · rw [hdrops, hstarts]
      rfl
    · rw [hdrops]
      simp only [Bool.not_eq_true] at hstarts
      simp only [hstarts, Bool.and_false, Bool.false_eq_true, if_false, List.nil_append]
      exact nest?_fresh (head_pieces_of_not_startsWithNewline htexts hstarts hps) true opened []
  · simp only [Bool.not_eq_true] at hdrops
    simp [hdrops]

mutual

theorem nest?_node (opened : List OpenTag) (after : List Node) (ps : List Piece) :
    ∀ node, (∀ content ∈ texts [node], content ≠ "") →
      nest? false opened after (node.pieces ++ ps) = nest? false opened (putNode after node) ps
  | .text content, h => by
      rw [Node.pieces, putNode]
      exact nest?_text (h content (by simp)) opened after ps
  | .element tag attributes children, h => by
      rw [Node.pieces, putNode, Node.merged]
      split
      next hvoid => rw [List.cons_append, List.nil_append, nest?, if_pos hvoid]
      next hvoid =>
        have htexts : ∀ content ∈ texts children, content ≠ "" := by simpa using h
        rw [List.cons_append, List.append_assoc, List.append_assoc, nest?, if_neg hvoid,
          nest?_guardPieces htexts _ (by simp), nest?_pieces _ _ _ children htexts,
          List.cons_append, List.nil_append, nest?, if_pos rfl, reverse_foldl_putNode_nil]

theorem nest?_pieces (opened : List OpenTag) (after : List Node) (ps : List Piece) :
    ∀ nodes, (∀ content ∈ texts nodes, content ≠ "") →
      nest? false opened after (pieces nodes ++ ps) =
        nest? false opened (nodes.foldl putNode after) ps
  | [], _ => by
      rw [pieces]
      rfl
  | node :: rest, h => by
      have hsplit : texts (node :: rest) = texts [node] ++ texts rest := by cases node <;> simp
      rw [hsplit] at h
      rw [pieces, List.append_assoc, List.foldl_cons,
        nest?_node _ _ _ node fun content hmem => h content (List.mem_append_left _ hmem),
        nest?_pieces _ _ _ rest fun content hmem => h content (List.mem_append_right _ hmem)]

end

/-- **A written forest is read back** as far as writing tells forests apart, if its names are plain and
its texts are not empty. -/
theorem readStrictly?_write {nodes : List Node} (hplain : ∀ p ∈ pieces nodes, p.Plain)
    (htexts : ∀ content ∈ texts nodes, content ≠ "") :
    readStrictly? (write nodes) = some (merged nodes) := by
  have hnest := nest?_pieces [] [] [] nodes htexts
  rw [List.append_nil] at hnest
  rw [readStrictly?, toList_write, readPieces?_flatMap hplain, Option.bind_some, hnest, nest?,
    List.isEmpty_nil, if_pos rfl, reverse_foldl_putNode_nil]

end SafeReadme.Html
