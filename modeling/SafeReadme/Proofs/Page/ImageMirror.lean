import SafeReadme.Proofs.Page.ImageSearch

/-!
# Mirroring the images of a written forest

The document is copied character by character, and an address that is found is left out while the
mirror's is put in. Piece by piece, that is what mirroring the attributes of images in the tree does.
-/

namespace SafeReadme.Page

open Html

/-! ## Mirrored forests -/

/-- An address on a raw host of GitHub, moved to the mirror; any other address as it is. -/
def mirrorAddress (address : String) : String :=
  let chars := address.toList
  let path? := ("https://raw.githubusercontent.com/".toList.isPrefixOf? chars).or
    ("https://raw.github.com/".toList.isPrefixOf? chars)
  match path? with
  | some path => "https://rawcdn.githack.com/" ++ String.ofList path
  | none => address

def mirrorAttribute (a : Attribute) : Attribute :=
  if a.name = "src" then ⟨"src", mirrorAddress a.value⟩ else a

def mirrorAttributes (tag : String) (attributes : List Attribute) : List Attribute :=
  if tag = "img" then attributes.map mirrorAttribute else attributes

mutual

def mirrorNode : Node → Node
  | .text content => .text content
  | .element tag attributes children =>
      .element tag (mirrorAttributes tag attributes) (mirrorForest children)

def mirrorForest : List Node → List Node
  | [] => []
  | node :: rest => mirrorNode node :: mirrorForest rest

end

def mirrorPiece : Piece → Piece
  | .opening tag attributes => .opening tag (mirrorAttributes tag attributes)
  | p => p

theorem startsWithNewline_mirrorForest (nodes : List Node) :
    startsWithNewline (mirrorForest nodes) = startsWithNewline nodes := by
  cases nodes with
  | nil => rw [mirrorForest]
  | cons node rest =>
      rw [mirrorForest]
      cases node <;> rw [mirrorNode] <;> rfl

theorem guardPieces_mirrorForest (tag : String) (children : List Node) :
    (guardPieces tag (mirrorForest children)) = (guardPieces tag children).map mirrorPiece := by
  unfold guardPieces
  rw [startsWithNewline_mirrorForest]
  split <;> rfl

mutual

theorem pieces_mirrorNode : ∀ node, (mirrorNode node).pieces = node.pieces.map mirrorPiece
  | .text content => by
      rw [mirrorNode, Node.pieces, List.map_map]
      rfl
  | .element tag attributes children => by
      rw [mirrorNode, Node.pieces, Node.pieces]
      split
      · rfl
      · rw [guardPieces_mirrorForest, pieces_mirrorForest children]
        simp [mirrorPiece]

theorem pieces_mirrorForest : ∀ nodes, pieces (mirrorForest nodes) = (pieces nodes).map mirrorPiece
  | [] => by
      rw [mirrorForest, pieces]
      rfl
  | node :: rest => by
      rw [mirrorForest, pieces, pieces, List.map_append, pieces_mirrorNode node,
        pieces_mirrorForest rest]

end

/-! ## Copying -/

theorem mirrorTo_skipping (out : String) (skipped rest : List Char) :
    mirrorTo out (.skipping skipped.length) (skipped ++ rest) = mirrorTo out .nothing rest := by
  induction skipped with
  | nil => cases rest <;> rfl
  | cons c cs ih =>
      rw [List.cons_append, List.length_cons, mirrorTo]
      exact ih

theorem mirrorTo_copying (out : String) {cs : List Char} (hcs : cs ≠ [])
    (skipped rest : List Char) :
    mirrorTo out (.copying cs.length skipped.length) (cs ++ (skipped ++ rest)) =
      mirrorTo (out ++ String.ofList cs ++ mirrorRoot) .nothing rest := by
  induction cs generalizing out with
  | nil => exact absurd rfl hcs
  | cons c cs ih =>
      rw [List.cons_append, List.length_cons, mirrorTo]
      cases cs with
      | nil =>
          rw [List.length_nil, if_pos rfl, List.nil_append, mirrorTo_skipping,
            append_ofList_singleton]
      | cons d more =>
          rw [if_neg (by simp), ih (out.push c) (by simp), push_append_ofList]

theorem mirrorTo_nothing (out : String) (c : Char) (cs : List Char) :
    mirrorTo out .nothing (c :: cs) =
      mirrorTo (out.push c)
        (if c == '<' then
          match imageSource? cs with
          | some (left, length) => .copying left length
          | none => .nothing
        else .nothing) cs :=
  rfl

theorem mirrorTo_pass (out : String) {cs : List Char} (h : '<' ∉ cs) (rest : List Char) :
    mirrorTo out .nothing (cs ++ rest) = mirrorTo (out ++ String.ofList cs) .nothing rest := by
  induction cs generalizing out with
  | nil => simp
  | cons c cs ih =>
      rw [List.mem_cons, not_or] at h
      have hc : (c == '<') = false := by simpa using Ne.symm h.1
      rw [List.cons_append, mirrorTo_nothing, hc, if_neg (by decide), ih _ h.2, push_append_ofList]

theorem mirrorTo_tag (out : String) {cs : List Char} (h : '<' ∉ cs) {rest : List Char}
    (hsource : imageSource? (cs ++ rest) = none) :
    mirrorTo out .nothing ('<' :: (cs ++ rest)) =
      mirrorTo (out ++ String.ofList ('<' :: cs)) .nothing rest := by
  rw [mirrorTo_nothing, if_pos (by decide), hsource, mirrorTo_pass _ h, push_append_ofList]

/-- A tag with a source on a raw host is copied, but for the address of the host. -/
theorem mirrorTo_source (out : String) {front root behind rest : List Char} (hfront : front ≠ [])
    (hbehind : '<' ∉ behind)
    (hsource : imageSource? (front ++ (root ++ (behind ++ rest))) =
      some (front.length, root.length)) :
    mirrorTo out .nothing ('<' :: (front ++ (root ++ (behind ++ rest)))) =
      mirrorTo (out ++ String.ofList ('<' :: (front ++ (mirrorRoot.toList ++ behind)))) .nothing
        rest := by
  rw [mirrorTo_nothing, if_pos (by decide), hsource]
  simp only
  rw [mirrorTo_copying _ hfront, mirrorTo_pass _ hbehind, push_append_ofList]
  congr 1
  apply String.toList_inj.1
  simp

/-! ## Mirrored pieces -/

theorem mirrorAddress_append {root : List Char} (hroot : root ∈ rawRoots) (path : List Char) :
    mirrorAddress (String.ofList (root ++ path)) =
      "https://rawcdn.githack.com/" ++ String.ofList path := by
  unfold mirrorAddress
  simp only [String.toList_ofList]
  have hself : ∀ front : List Char, front.isPrefixOf? (front ++ path) = some path :=
    fun front => List.isPrefixOf?_eq_some_iff_append_eq.2 rfl
  simp only [rawRoots, List.mem_cons, List.not_mem_nil, or_false] at hroot
  rcases hroot with rfl | rfl
  · rw [hself, Option.some_or]
  · have hother : "https://raw.githubusercontent.com/".toList.isPrefixOf?
        ("https://raw.github.com/".toList ++ path) = none := rfl
    rw [hother, hself, Option.none_or]

theorem mirrorAddress_of_none {address : String} (h : rawLength? address.toList = none) :
    mirrorAddress address = address := by
  rw [rawLength?, Option.map_eq_none_iff, List.find?_eq_none] at h
  have hnot : ∀ root ∈ rawRoots, root.isPrefixOf? address.toList = none := by
    intro root hroot
    rw [← Option.not_isSome_iff_eq_none, List.isSome_isPrefixOf?_eq_isPrefixOf]
    exact h root hroot
  have hfirst : "https://raw.githubusercontent.com/".toList.isPrefixOf? address.toList = none :=
    hnot _ (List.mem_cons_self ..)
  have hsecond : "https://raw.github.com/".toList.isPrefixOf? address.toList = none :=
    hnot _ (List.mem_cons_of_mem _ (List.mem_cons_self ..))
  unfold mirrorAddress
  simp only [hfirst, hsecond, Option.none_or]

theorem mirrorAttribute_of_none {a : Attribute} (h : sourceLength? a = none) :
    mirrorAttribute a = a := by
  unfold mirrorAttribute
  split
  next hname =>
    rw [sourceLength?, if_pos hname] at h
    rw [mirrorAddress_of_none h, ← hname]
  · rfl

/-- A source on a raw host keeps its path. -/
theorem exists_of_sourceLength? {a : Attribute} {length : Nat} (h : sourceLength? a = some length) :
    ∃ root path, root.length = length ∧
      a.chars = ' ' :: (sourceStart ++ (root ++ (path ++ ['"']))) ∧
      (mirrorAttribute a).chars = ' ' :: (sourceStart ++ (mirrorRoot.toList ++ (path ++ ['"']))) ∧
      '<' ∉ path := by
  rw [sourceLength?] at h
  split at h
  next hname =>
    obtain ⟨root, hroot, path, hvalue, hlength⟩ := exists_of_rawLength? h
    have hplain (cs : List Char) (hcs : ∀ c ∈ cs, valueChar c = [c]) :
        (cs ++ path).flatMap valueChar = cs ++ path.flatMap valueChar := by
      rw [List.flatMap_append, List.flatMap_congr hcs, List.flatMap_singleton']
    have hmirror : mirrorRoot.toList.all (fun c => valueChar c == [c]) = true := by decide
    refine ⟨root, path.flatMap valueChar, hlength, ?_, ?_, (not_mem_value path).1⟩
    · rw [Attribute.chars, hname, hvalue, hplain root (valueChar_rawRoots root hroot)]
      simp [sourceStart]
    · have haddress : a.value = String.ofList (root ++ path) := by
        rw [← hvalue, String.ofList_toList]
      have hself : ∀ c ∈ mirrorRoot.toList, valueChar c = [c] :=
        fun c hc => beq_iff_eq.1 (List.all_eq_true.1 hmirror c hc)
      have hpath := hplain mirrorRoot.toList hself
      have hmoved : mirrorAttribute a = ⟨"src", mirrorRoot ++ String.ofList path⟩ := by
        rw [mirrorAttribute, if_pos hname, haddress, mirrorAddress_append hroot]
        rfl
      have hchars : (mirrorRoot ++ String.ofList path).toList = mirrorRoot.toList ++ path := by
        rw [String.toList_append, String.toList_ofList]
      rw [hmoved, Attribute.chars, hchars, hpath]
      simp [sourceStart]
  · cases h

theorem map_mirrorAttribute {attributes : List Attribute}
    (h : ∀ a ∈ attributes, sourceLength? a = none) : attributes.map mirrorAttribute = attributes := by
  induction attributes with
  | nil => rfl
  | cons a more ih =>
      rw [List.map_cons, mirrorAttribute_of_none (h a (by simp)),
        ih fun b hb => h b (List.mem_cons_of_mem _ hb)]

theorem sourceLength?_of_ne {a : Attribute} (h : a.name ≠ "src") : sourceLength? a = none :=
  if_neg h

/-- Names are distinct, so at most one attribute is a source. -/
theorem exists_only_source {attributes : List Attribute} (hnodup : (names attributes).Nodup)
    (h : ¬∀ a ∈ attributes, sourceLength? a = none) :
    ∃ before a after length, attributes = before ++ a :: after ∧ sourceLength? a = some length ∧
      (∀ b ∈ before, sourceLength? b = none) ∧ (∀ b ∈ after, sourceLength? b = none) := by
  obtain ⟨a, hmem, hsome⟩ : ∃ a ∈ attributes, sourceLength? a ≠ none := by
    simpa using h
  obtain ⟨length, hlength⟩ := Option.ne_none_iff_exists'.1 hsome
  obtain ⟨before, after, rfl⟩ := List.append_of_mem hmem
  have hname : a.name = "src" := by
    by_contra hne
    exact hsome (sourceLength?_of_ne hne)
  have hperm : (names (before ++ a :: after)).Perm (names (a :: (before ++ after))) :=
    List.perm_middle.map _
  have hother : a.name ∉ names (before ++ after) := (List.nodup_cons.1 (hperm.nodup_iff.1 hnodup)).1
  have hnone : ∀ b ∈ before ++ after, sourceLength? b = none := by
    intro b hb
    apply sourceLength?_of_ne
    intro hsame
    exact hother (mem_names.2 ⟨b, hb, hsame.trans hname.symm⟩)
  exact ⟨before, a, after, length, rfl, hlength, fun b hb => hnone b (List.mem_append_left _ hb),
    fun b hb => hnone b (List.mem_append_right _ hb)⟩

theorem mirrorTo_image (out : String) {attributes : List Attribute}
    (h : (Piece.opening "img" attributes).Plain) (rest : List Char) :
    mirrorTo out .nothing ((Piece.opening "img" attributes).chars ++ rest) =
      mirrorTo
        (out ++ String.ofList (Piece.opening "img" (attributes.map mirrorAttribute)).chars)
        .nothing rest := by
  obtain ⟨htag, hplain, hnodup⟩ := h
  by_cases hnone : ∀ a ∈ attributes, sourceLength? a = none
  · have hchars : (Piece.opening "img" attributes).chars ++ rest =
        '<' ::
          (("img".toList ++ (attributes.flatMap Attribute.chars ++ bracketOf "img")) ++ rest) := by
      simp [Piece.chars]
    have hopen := open_not_mem_opening ⟨htag, hplain, hnodup⟩
    have hsource := imageSource?_eq_none hplain hnone rest
    rw [← List.append_assoc _ (bracketOf "img"), ← List.append_assoc "img".toList] at hsource
    rw [map_mirrorAttribute hnone, hchars, mirrorTo_tag out hopen hsource]
    rfl
  · obtain ⟨before, a, after, length, rfl, hlength, hbefore, hafter⟩ :=
      exists_only_source hnodup hnone
    obtain ⟨root, path, rfl, hchars, hmirrored, hpath⟩ := exists_of_sourceLength? hlength
    have hsource := imageSource?_eq_some hplain hbefore hafter hlength rest
    have hbehind : '<' ∉ path ++ '"' :: (after.flatMap Attribute.chars ++ bracketOf "img") := by
      have hinside := open_not_mem_opening ⟨htag, hplain, hnodup⟩
      simp only [List.flatMap_append, List.flatMap_cons, List.mem_append, not_or] at hinside
      simp [hpath, hinside.2.1.2.2, hinside.2.2]
    have hread : imageSource?
        (("img".toList ++ before.flatMap Attribute.chars ++ ' ' :: sourceStart) ++
          (root ++ ((path ++ '"' :: (after.flatMap Attribute.chars ++ bracketOf "img")) ++ rest))) =
        some (("img".toList ++ before.flatMap Attribute.chars ++ ' ' :: sourceStart).length,
          root.length) := by
      rw [← hsource, hchars]
      simp
    have hbefore' := map_mirrorAttribute hbefore
    have hafter' := map_mirrorAttribute hafter
    calc
      mirrorTo out .nothing ((Piece.opening "img" (before ++ a :: after)).chars ++ rest) = _ := by
        rw [Piece.chars, List.flatMap_append, List.flatMap_cons, hchars]
        simp
      _ = _ := mirrorTo_source out (by simp) hbehind hread
      _ = _ := by
        congr 3
        rw [Piece.chars, List.map_append, List.map_cons, hbefore', hafter', List.flatMap_append,
          List.flatMap_cons, hmirrored]
        simp

theorem mirrorTo_piece (out : String) {p : Piece} (h : p.Plain) (rest : List Char) :
    mirrorTo out .nothing (p.chars ++ rest) =
      mirrorTo (out ++ String.ofList (mirrorPiece p).chars) .nothing rest := by
  cases p with
  | char c =>
      have hopen : '<' ∉ (Piece.char c).chars := (not_mem_textChar c).1
      exact mirrorTo_pass out hopen rest
  | ending tag =>
      have hopen : '<' ∉ '/' :: (tag.toList ++ ['>']) := by
        simp [not_mem_name h]
      exact mirrorTo_tag out hopen rfl
  | opening tag attributes =>
      by_cases himage : tag = "img"
      · subst himage
        rw [mirrorPiece, mirrorAttributes, if_pos rfl]
        exact mirrorTo_image out h rest
      · obtain ⟨c, more, hmore, hc⟩ := exists_head_after_name attributes tag rest
        have hsource := imageSource?_of_ne h.1 himage hc more
        rw [← hmore, ← List.append_assoc _ (bracketOf tag), ← List.append_assoc tag.toList]
          at hsource
        rw [mirrorPiece, mirrorAttributes, if_neg himage]
        exact mirrorTo_tag out (open_not_mem_opening h) hsource

theorem mirrorTo_pieces (out : String) {ps : List Piece} (h : ∀ p ∈ ps, p.Plain) :
    mirrorTo out .nothing (ps.flatMap Piece.chars) =
      out ++ String.ofList ((ps.map mirrorPiece).flatMap Piece.chars) := by
  induction ps generalizing out with
  | nil => simp [mirrorTo]
  | cons p ps ih =>
      have hp : p.Plain := h p (by simp)
      rw [List.flatMap_cons, mirrorTo_piece out hp, ih _ fun q hq => h q (List.mem_cons_of_mem _ hq),
        List.map_cons, List.flatMap_cons, String.ofList_append, String.append_assoc]

/-- **Mirroring the images of a written forest mirrors the images of the forest.** -/
theorem mirrorImages_write {nodes : List Node} (h : ∀ e ∈ elements nodes, e.Plain) :
    mirrorImages (write nodes) = write (mirrorForest nodes) := by
  apply String.toList_inj.1
  rw [mirrorImages, toList_write, mirrorTo_pieces "" (plain_of_mem_pieces h), toList_write,
    pieces_mirrorForest]
  simp

end SafeReadme.Page
