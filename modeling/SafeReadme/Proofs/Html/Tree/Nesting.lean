import SafeReadme.Proofs.Html.Tree.AttributeNames
import SafeReadme.Proofs.Html.Tree.Insert
import SafeReadme.Sanitize.Walk

/-!
# How deep a tree is nested

The levels to which a tree is read are counted for nodes, and not for elements: a tree is refused
where any node lies inside one element more than may be nested. So a chain of that many elements is
read as long as the innermost holds nothing. Towers of elements show both sides of the limit.
-/

namespace SafeReadme.Html

namespace Arena

variable {a : Arena}

def isElement (a : Arena) (id : NodeId) : Bool :=
  match a.content id with
  | .element _ _ => true
  | _ => false

/-- Elements that are nested in one another, the outermost first: it is one of `ids`, and each of the
others is a child of the one before it. -/
def Nests (a : Arena) : (ids chain : List NodeId) → Prop
  | _, [] => True
  | ids, id :: chain => id ∈ ids ∧ a.isElement id = true ∧ a.Nests (a.entry id).children chain

/-- The nodes that the innermost element of a chain holds; for no elements, these are `ids`. -/
def held (a : Arena) : (ids chain : List NodeId) → List NodeId
  | ids, [] => ids
  | _, id :: chain => a.held (a.entry id).children chain

/-! ## Chains -/

theorem nests_reverse {ids chain : List NodeId} : a.Nests ids.reverse chain ↔ a.Nests ids chain := by
  cases chain with
  | nil => exact Iff.rfl
  | cons id chain => simp [Nests]

theorem held_reverse_eq_nil {ids chain : List NodeId} :
    a.held ids.reverse chain = [] ↔ a.held ids chain = [] := by
  cases chain with
  | nil => simp [held]
  | cons id chain => exact Iff.rfl

/-- The elements of a longer chain are held by those of a shorter one. -/
theorem Nests.take {ids chain : List NodeId} (h : a.Nests ids chain) {count : Nat}
    (hcount : count < chain.length) :
    a.Nests ids (chain.take count) ∧ a.held ids (chain.take count) ≠ [] := by
  induction count generalizing ids chain with
  | zero =>
      cases chain with
      | nil => simp at hcount
      | cons id chain => exact ⟨trivial, List.ne_nil_of_mem h.1⟩
  | succ count ih =>
      cases chain with
      | nil => simp at hcount
      | cons id chain =>
          have hinner := ih h.2.2 (by simpa using hcount)
          exact ⟨⟨h.1, h.2.1, hinner.1⟩, hinner.2⟩

/-! ## Reading to a number of levels -/

theorem mapM_eq_none_iff {α β : Type} {f : α → Option β} {xs : List α} :
    xs.mapM f = none ↔ ∃ x ∈ xs, f x = none := by
  induction xs with
  | nil => simp
  | cons x rest ih =>
      rw [List.mapM_cons]
      cases hx : f x with
      | none => simp [hx]
      | some y =>
          cases hrest : rest.mapM f with
          | none => simpa [hx] using ih.1 hrest
          | some ys => simpa [hx, hrest] using ih

/-- A forest is not read if the content of one of its elements is not. -/
theorem nodes?_succ_eq_none_iff {levels : Nat} {ids : List NodeId} :
    a.nodes? (levels + 1) ids = none ↔ ∃ id ∈ ids, a.isElement id = true ∧
      a.nodes? levels (a.entry id).children.reverse = none := by
  rw [nodes?, bind_pure_comp, Option.map_eq_map, Option.map_eq_none_iff, mapM_eq_none_iff]
  refine exists_congr fun id => and_congr_right fun _ => ?_
  cases hcontent : a.content id with
  | element name attributes =>
      cases hinner : a.nodes? levels (a.entry id).children.reverse <;> simp [isElement, hcontent]
  | text content => simp [isElement, hcontent]
  | comment => simp [isElement, hcontent]
  | root => simp [isElement, hcontent]

/-- A tree is not read if a chain of as many elements as there are levels holds a node, whatever kind
of node that is. -/
theorem nodes?_eq_none_iff {levels : Nat} {ids : List NodeId} :
    a.nodes? levels ids = none ↔
      ∃ chain, a.Nests ids chain ∧ chain.length = levels ∧ a.held ids chain ≠ [] := by
  induction levels generalizing ids with
  | zero =>
      rw [nodes?]
      constructor
      · intro h
        refine ⟨[], trivial, rfl, ?_⟩
        rintro rfl
        simp at h
      · rintro ⟨chain, -, hlength, hheld⟩
        obtain rfl := List.length_eq_zero_iff.1 hlength
        simp only [held] at hheld
        simp [hheld]
  | succ levels ih =>
      rw [nodes?_succ_eq_none_iff]
      constructor
      · rintro ⟨id, hid, helement, hread⟩
        obtain ⟨chain, hnests, hlength, hheld⟩ := ih.1 hread
        exact ⟨id :: chain, ⟨hid, helement, nests_reverse.1 hnests⟩, by simp [hlength],
          fun hnil => hheld (held_reverse_eq_nil.2 hnil)⟩
      · rintro ⟨chain, hnests, hlength, hheld⟩
        cases chain with
        | nil => cases hlength
        | cons id chain =>
            obtain ⟨hid, helement, hinner⟩ := hnests
            have hinside : a.held (a.entry id).children chain ≠ [] := hheld
            refine ⟨id, hid, helement,
              ih.2 ⟨chain, nests_reverse.2 hinner, Nat.succ.inj hlength, ?_⟩⟩
            exact fun hnil => hinside (held_reverse_eq_nil.1 hnil)

end Arena

/-! ## The limit -/

namespace Builder

variable {b : Builder}

/-- A chain of elements from the top of the tree. Contents of templates are no children, so no chain
leads into them. -/
def Nests (b : Builder) (chain : List NodeId) : Prop :=
  b.arena.Nests (b.arena.entry 0).children chain

/-- `count` elements are nested in one another, and the innermost holds a node: an element, text or a
comment. -/
def HoldsInside (b : Builder) (count : Nat) : Prop :=
  ∃ chain, b.Nests chain ∧ chain.length = count ∧
    b.arena.held (b.arena.entry 0).children chain ≠ []

theorem holdsInside_of_nests {chain : List NodeId} (h : b.Nests chain) {count : Nat}
    (hcount : count < chain.length) : b.HoldsInside count := by
  obtain ⟨hnests, hheld⟩ := Arena.Nests.take h hcount
  exact ⟨chain.take count, hnests, List.length_take_of_le (Nat.le_of_lt hcount), hheld⟩

theorem nodes?_eq_none_iff : b.nodes? = none ↔ b.HoldsInside (maxDepth + 1) := by
  rw [Builder.nodes?, Arena.nodes?_eq_none_iff]
  refine exists_congr fun chain => and_congr Arena.nests_reverse (and_congr_right fun _ => ?_)
  exact not_congr Arena.held_reverse_eq_nil

end Builder

/-! ## Towers -/

def spanTag : Tag :=
  ⟨"span", [], false⟩

def spans (count : Nat) (content : String) : String :=
  String.join (List.replicate count "<span>") ++ content

namespace Builder

def tower : Nat → Builder
  | 0 => start
  | count + 1 => (tower count).insert spanTag

/-- What the tags of a tower leave as it was at the start, and where the next one goes. -/
structure IsTower (b : Builder) (count : Nat) : Prop where
  formatting : b.formatting = []
  mode : b.mode = .body
  textMode : b.textMode = .data
  fostering : b.fostering = false
  dropsNewline : b.dropsNewline = false
  current : b.current = count
  size : b.arena.size = count + 1
  html : b.currentName.vocabulary = .html
  contents : (b.arena.entry count).contents = none
  empty : (b.arena.entry count).children = []
  child : ∀ below < count, (b.arena.entry below).children = [below + 1]
  element : ∀ below < count, b.arena.isElement (below + 1) = true

theorem isTower_start : IsTower start 0 where
  formatting := rfl
  mode := rfl
  textMode := rfl
  fostering := rfl
  dropsNewline := rfl
  current := rfl
  size := rfl
  html := rfl
  contents := rfl
  empty := rfl
  child := by simp
  element := by simp

variable {b : Builder} {count : Nat}

theorem IsTower.insert_eq (h : b.IsTower count) :
    b.insert spanTag =
      { b with
        arena := (b.arena.create (.element ⟨.html, "span"⟩ [])).append count b.arena.size
        stack := b.arena.size :: b.stack } := by
  rw [insert_eq_append h.fostering (by rw [h.current, h.contents]) (by decide), h.current]
  rfl

/-- A node at the foot of a tower is held by the innermost element and changes nothing above. -/
theorem IsTower.grow (h : b.IsTower count) (content : Content) :
    let higher := (b.arena.create content).append count b.arena.size
    higher.size = count + 2 ∧ higher.entry (count + 1) = ⟨content, some count, [], none⟩ ∧
      (∀ below < count + 1, (higher.entry below).children = [below + 1]) ∧
        ∀ below < count, higher.isElement (below + 1) = true := by
  intro higher
  have hlt : count < b.arena.size := by
    rw [h.size]
    omega
  have hsize : higher.size = b.arena.size + 1 := Arena.size_append_create count content
  have hentry : ∀ id, higher.entry id = _ := Arena.entry_append_create hlt content
  rw [h.size] at hsize hentry
  refine ⟨hsize, by rw [hentry, if_pos rfl], ?_, ?_⟩
  · intro below hbelow
    rw [hentry, if_neg (by omega)]
    split
    next heq => simp [heq, h.empty]
    · exact h.child below (by omega)
  · intro below hbelow
    have hcontent : higher.content (below + 1) = b.arena.content (below + 1) := by
      rw [Arena.content, hentry, if_neg (by omega)]
      split <;> rfl
    rw [Arena.isElement, hcontent]
    exact h.element below hbelow

/-- One more tag makes the tower one higher. -/
theorem IsTower.insert (h : b.IsTower count) : (b.insert spanTag).IsTower (count + 1) := by
  obtain ⟨hsize, hnew, hchild, helement⟩ := h.grow (.element ⟨.html, "span"⟩ [])
  rw [h.insert_eq]
  rw [h.size] at hsize hnew hchild helement ⊢
  generalize (b.arena.create (.element ⟨.html, "span"⟩ [])).append count (count + 1) = higher
    at hsize hnew hchild helement ⊢
  have hcontent : higher.content (count + 1) = .element ⟨.html, "span"⟩ [] := by
    rw [Arena.content, hnew]
  exact {
    formatting := h.formatting
    mode := h.mode
    textMode := h.textMode
    fostering := h.fostering
    dropsNewline := h.dropsNewline
    current := rfl
    size := hsize
    html := by
      show (higher.name (count + 1)).vocabulary = .html
      rw [Arena.name, hcontent]
    contents := by rw [hnew]
    empty := by rw [hnew]
    child := hchild
    element := by
      intro below hbelow
      by_cases hlast : below = count
      · rw [hlast, Arena.isElement, hcontent]
      · exact helement below (by omega) }

theorem isTower_tower (count : Nat) : (tower count).IsTower count := by
  induction count with
  | zero => exact isTower_start
  | succ count ih => exact ih.insert

theorem IsTower.reconstruct (h : b.IsTower count) : b.reconstruct = b :=
  reconstruct_of_nil h.formatting

theorem IsTower.withKept (h : b.IsTower count) : { b with dropsNewline := false } = b := by
  rw [← h.dropsNewline]

theorem IsTower.take (h : b.IsTower count) (token : Token) : b.take token = b.inBody token :=
  take_of_body h.mode h.html token

theorem IsTower.next_tag (h : b.IsTower count) :
    b.next (.startTag spanTag) = b.insert spanTag := by
  have hgroup : BodyStart.ofTag spanTag.name = .other := by decide
  have himage : (spanTag.name == "image") = false := by decide
  show Builder.take { b with dropsNewline := false } (.startTag spanTag) = _
  rw [h.withKept, h.take, inBody, startInBody, himage]
  simp [hgroup, h.reconstruct]

theorem IsTower.next_text (h : b.IsTower count) : b.next (.text "x" false) = b.addText "x" := by
  have hchars : "x".toList = ['x'] := by decide
  rw [Builder.next, takeText]
  simp only [hchars, h.dropsNewline, h.withKept]
  exact (h.take _).trans (by rw [inBody, textInBody, h.reconstruct])

/-- So many tags make the tower so much higher; `spare` tokens are left for what follows them. -/
theorem run_tower (count more spare : Nat) (rest : List Char) :
    run (more + spare) (tower count)
        ((List.replicate more "<span>").flatMap String.toList ++ rest) =
      run spare (tower (count + more)) rest := by
  induction more generalizing count with
  | zero => simp
  | succ more ih =>
      have h := isTower_tower count
      have hchars : "<span>".toList = (Piece.opening "span" []).chars := by decide
      have hplain : (Piece.opening "span" []).Plain := by decide
      have htoken : openingToken "span" [] = .startTag spanTag := rfl
      have hmode : (tower count).insert spanTag = tower (count + 1) := rfl
      rw [Nat.add_right_comm, List.replicate_succ, List.flatMap_cons, List.append_assoc, hchars,
        run_of_next? h.textMode (next?_opening hplain _ _), htoken, h.next_tag, hmode, ih,
        Nat.add_right_comm, Nat.add_assoc]

theorem construct_spans (count : Nat) (content : String)
    (hcontent : ∀ c ∈ content.toList, c ≠ '\r' ∧ c ≠ '\ufeff') :
    ∃ spare, construct (spans count content).toList =
      run (spare + 1) (tower count) content.toList := by
  have hchars : (spans count content).toList =
      (List.replicate count "<span>").flatMap String.toList ++ content.toList := by
    rw [spans, String.toList_append, String.toList_join]
  have hplain : ∀ c ∈ (spans count content).toList, c ≠ '\r' ∧ c ≠ '\ufeff' := by
    have htag : ∀ c ∈ "<span>".toList, c ≠ '\r' ∧ c ≠ '\ufeff' := by simp
    intro c hc
    rw [hchars, List.mem_append, List.mem_flatMap] at hc
    rcases hc with ⟨tag, hmem, hc⟩ | hc
    · rw [List.eq_of_mem_replicate hmem] at hc
      exact htag c hc
    · exact hcontent c hc
  have hmark : dropMark (spans count content).toList = (spans count content).toList := by
    cases hcs : (spans count content).toList with
    | nil => rfl
    | cons c cs =>
        rw [hcs] at hplain
        rw [dropMark, if_neg (hplain c (by simp)).2]
  have hlength : count ≤ (spans count content).toList.length := by
    rw [hchars, List.length_append, List.length_flatMap]
    simp
    omega
  obtain ⟨spare, hspare⟩ := Nat.exists_eq_add_of_le hlength
  refine ⟨spare, ?_⟩
  rw [construct, hmark, normalizeNewlines_of_not_mem fun h => (hplain _ h).1 rfl, hspare,
    Nat.add_assoc, hchars]
  exact (run_tower 0 count (spare + 1) content.toList).trans (by rw [Nat.zero_add])

end Builder

/-! ## The limit on towers -/

/-- An arena whose only chain of elements from the top has `count` of them. -/
structure Arena.Stairs (a : Arena) (count : Nat) : Prop where
  child : ∀ below < count, (a.entry below).children = [below + 1]
  element : ∀ below < count, a.isElement (below + 1) = true
  leaves : ∀ id ∈ (a.entry count).children, a.isElement id = false

namespace Arena.Stairs

variable {a : Arena} {count : Nat}

theorem nests (h : a.Stairs count) {below length : Nat} (hle : below + length ≤ count) :
    a.Nests (a.entry below).children (List.range' (below + 1) length) := by
  induction length generalizing below with
  | zero => trivial
  | succ length ih =>
      have hchild := h.child below (by omega)
      exact ⟨by simp [hchild], h.element below (by omega), ih (by omega)⟩

/-- A chain goes down step by step, and ends at the leaves at the latest. -/
theorem held_eq (h : a.Stairs count) {below : Nat} (hle : below ≤ count) {chain : List NodeId}
    (hnests : a.Nests (a.entry below).children chain) :
    below + chain.length ≤ count ∧
      a.held (a.entry below).children chain = (a.entry (below + chain.length)).children := by
  induction chain generalizing below with
  | nil => exact ⟨hle, rfl⟩
  | cons id chain ih =>
      obtain ⟨hid, helement, hinner⟩ := hnests
      have hlt : below < count := by
        by_contra hge
        obtain rfl : below = count := by omega
        rw [h.leaves id hid] at helement
        cases helement
      rw [h.child below hlt, List.mem_singleton] at hid
      subst hid
      obtain ⟨hbound, hheld⟩ := ih (by omega) hinner
      have hlength : below + (chain.length + 1) = below + 1 + chain.length := by omega
      rw [List.length_cons, hlength]
      exact ⟨hbound, hheld⟩

theorem holdsInside_iff {b : Builder} (h : b.arena.Stairs count) (length : Nat) :
    b.HoldsInside length ↔
      length < count ∨ length = count ∧ (b.arena.entry count).children ≠ [] := by
  constructor
  · rintro ⟨chain, hnests, rfl, hheld⟩
    obtain ⟨hle, heq⟩ := h.held_eq (Nat.zero_le count) hnests
    rw [heq, Nat.zero_add] at hheld
    rcases Nat.lt_or_eq_of_le hle with hlt | hlast
    · exact .inl (by omega)
    · rw [Nat.zero_add] at hlast
      exact .inr ⟨hlast, hlast ▸ hheld⟩
  · intro hlength
    have hle : 0 + length ≤ count := by omega
    have hnests := h.nests hle
    obtain ⟨-, heq⟩ := h.held_eq (Nat.zero_le count) hnests
    refine ⟨_, hnests, List.length_range', ?_⟩
    rw [heq, List.length_range', Nat.zero_add]
    rcases hlength with hlt | ⟨rfl, hfull⟩
    · rw [h.child length hlt]
      simp
    · exact hfull

end Arena.Stairs

namespace Builder

variable {b : Builder} {count : Nat}

theorem IsTower.stairs (h : b.IsTower count) : b.arena.Stairs count :=
  ⟨h.child, h.element, by simp [h.empty]⟩

theorem construct_spans_empty (count : Nat) : construct (spans count "").toList = tower count := by
  obtain ⟨spare, hrun⟩ := construct_spans count "" (by simp)
  have hmode : (tower count).mode ≠ .tableText := by simp [(isTower_tower count).mode]
  rw [hrun]
  exact run_nil _ hmode

theorem construct_spans_text (count : Nat) :
    construct (spans count "x").toList = (tower count).addText "x" := by
  obtain ⟨spare, hrun⟩ := construct_spans count "x" (by simp)
  have h := isTower_tower count
  have hchars : "x".toList = ['x'].flatMap textChar ++ [] := by decide
  have hmode : ((tower count).addText "x").mode ≠ .tableText := by
    unfold addText
    split <;> simp [h.mode]
  rw [hrun, hchars, run_of_next? h.textMode (next?_text (by simp) (by simp) _)]
  show run spare ((tower count).next (.text "x" false)) [] = _
  rw [h.next_text]
  exact run_nil _ hmode

/-- Text at the foot of a tower makes it no higher. -/
theorem IsTower.stairs_addText (h : b.IsTower count) :
    (b.addText "x").arena.Stairs count ∧
      ((b.addText "x").arena.entry count).children = [count + 1] := by
  obtain ⟨-, hnew, hchild, helement⟩ := h.grow (.text "x")
  have htext : (b.addText "x").arena =
      (b.arena.create (.text "x")).append count b.arena.size := by
    rw [addText_eq_append h.fostering (by rw [h.current, h.contents])
      (by rw [h.current, h.empty]), h.current]
  rw [htext]
  have hfoot := hchild count (by omega)
  refine ⟨⟨fun below hbelow => hchild below (by omega), helement, ?_⟩, hfoot⟩
  intro id hid
  rw [hfoot, List.mem_singleton] at hid
  rw [hid, Arena.isElement, Arena.content, hnew]

end Builder

/-- **Towers are refused from one element above the limit on**, if they are empty. -/
theorem read?_spans_eq_none_iff (count : Nat) :
    read? (spans count "") = none ↔ maxDepth + 1 < count := by
  have htower := Builder.isTower_tower count
  rw [read?, Builder.construct_spans_empty, Builder.nodes?_eq_none_iff,
    htower.stairs.holdsInside_iff, htower.empty]
  simp

/-- **Text takes a level of its own**: with it, towers are refused one element earlier. -/
theorem read?_spans_text_eq_none_iff (count : Nat) :
    read? (spans count "x") = none ↔ maxDepth + 1 ≤ count := by
  obtain ⟨hstairs, hfoot⟩ := (Builder.isTower_tower count).stairs_addText
  rw [read?, Builder.construct_spans_text, Builder.nodes?_eq_none_iff, hstairs.holdsInside_iff,
    hfoot]
  simp
  omega

/-! ## The limit on documents -/

theorem readWithin_eq_tooDeep {max : Nat} {html : String} (h : html.utf8ByteSize ≤ max) :
    readWithin max html = .error (.tooDeep maxDepth) ↔ read? html = none := by
  rw [readWithin, if_neg (Nat.not_lt.2 h)]
  cases read? html <;> simp

/-- **The limit lies one element higher than it says.** A document that is short enough is refused
for its nesting exactly if one element more than may be nested lie in one another and the innermost
holds a node. So the limit counts elements exactly, unless a chain of one element more than may be
nested is the longest and each such chain ends with an empty element. -/
theorem readWithin_eq_tooDeep_iff {max : Nat} {html : String} (h : html.utf8ByteSize ≤ max) :
    (readWithin max html = .error (.tooDeep maxDepth) ↔
        (Builder.construct html.toList).HoldsInside (maxDepth + 1)) ∧
      ((readWithin max html = .error (.tooDeep maxDepth) ↔
          ∃ chain, (Builder.construct html.toList).Nests chain ∧ maxDepth < chain.length) ↔
        ((∃ chain, (Builder.construct html.toList).Nests chain ∧ chain.length = maxDepth + 1) →
          (Builder.construct html.toList).HoldsInside (maxDepth + 1))) := by
  have hexact : readWithin max html = .error (.tooDeep maxDepth) ↔
      (Builder.construct html.toList).HoldsInside (maxDepth + 1) :=
    (readWithin_eq_tooDeep h).trans Builder.nodes?_eq_none_iff
  refine ⟨hexact, ?_⟩
  rw [hexact]
  constructor
  · rintro hcounts ⟨chain, hnests, hlength⟩
    exact hcounts.2 ⟨chain, hnests, by omega⟩
  · intro hfilled
    constructor
    · rintro ⟨chain, hnests, hlength, -⟩
      exact ⟨chain, hnests, by omega⟩
    · rintro ⟨chain, hnests, hlong⟩
      by_cases hlength : chain.length = maxDepth + 1
      · exact hfilled ⟨chain, hnests, hlength⟩
      · exact Builder.holdsInside_of_nests hnests (by omega)

/-- The lowest tower that is refused for the text in it. -/
theorem readWithin_eq_tooDeep_iff_tower :
    (spans 513 "x").utf8ByteSize ≤ 10000000 ∧
      (Builder.construct (spans 513 "x").toList).HoldsInside 513 ∧
        readWithin 10000000 (spans 513 "x") = .error (.tooDeep 512) := by
  have hsize : (spans 513 "x").utf8ByteSize ≤ 10000000 := by
    decide +kernel
  have hfull : (Builder.construct (spans 513 "x").toList).HoldsInside 513 :=
    Builder.nodes?_eq_none_iff.1 ((read?_spans_text_eq_none_iff 513).2 (Nat.le_refl 513))
  exact ⟨hsize, hfull, (readWithin_eq_tooDeep_iff hsize).1.2 hfull⟩

/-- A tower of 513 elements is nested too deep, but it is read; with text in the innermost element,
which adds no element, it is refused. -/
theorem not_tooDeep_tower :
    (∃ chain, (Builder.construct (spans 513 "").toList).Nests chain ∧ maxDepth < chain.length) ∧
      readWithin 10000000 (spans 513 "") ≠ .error (.tooDeep maxDepth) ∧
      (∀ chain, (Builder.construct (spans 513 "x").toList).Nests chain → chain.length ≤ 513) ∧
      readWithin 10000000 (spans 513 "x") = .error (.tooDeep maxDepth) := by
  have hempty : (spans 513 "").utf8ByteSize ≤ 10000000 := by decide +kernel
  have hfull : (spans 513 "x").utf8ByteSize ≤ 10000000 := by decide +kernel
  have htower := Builder.isTower_tower 513
  refine ⟨⟨List.range' 1 513, ?_, by simp [maxDepth]⟩, ?_, ?_, ?_⟩
  · rw [Builder.construct_spans_empty]
    exact htower.stairs.nests (Nat.le_of_eq (Nat.zero_add 513))
  · rw [Ne, readWithin_eq_tooDeep hempty, read?_spans_eq_none_iff]
    exact Nat.lt_irrefl 513
  · intro chain hnests
    rw [Builder.construct_spans_text] at hnests
    have hbound := (htower.stairs_addText.1.held_eq (Nat.zero_le 513) hnests).1
    omega
  · rw [readWithin_eq_tooDeep hfull, read?_spans_text_eq_none_iff]
    exact Nat.le_refl 513

end SafeReadme.Html
