import Mathlib.Tactic.ByContra
import SafeReadme.Proofs.Html.LineBreaks
import SafeReadme.Proofs.Text.Letters

/-!
# The tokens of a written document

A reader in data mode gets back from the written form of pieces what was written: each tag with its
name and its attributes, and the text between two tags. In values NUL is read as the replacement
character, and in text it is a token of its own.
-/

namespace SafeReadme.Html

/-! ## Names that a reader keeps -/

def isPlainChar (c : Char) : Bool :=
  c.isLower || c.isDigit || c == '-'

/-- A name that is read as it is written: a letter in lower case, then such letters, digits and
hyphens. -/
def isPlainName (name : String) : Bool :=
  match name.toList with
  | [] => false
  | c :: cs => c.isLower && cs.all isPlainChar

def Piece.Plain : Piece → Prop
  | .char _ => True
  | .opening tag attributes =>
      isPlainName tag = true ∧ (∀ a ∈ attributes, isPlainName a.name = true) ∧
        (names attributes).Nodup
  | .ending tag => isPlainName tag = true

instance : DecidablePred Piece.Plain
  | .char _ => isTrue trivial
  | .opening tag attributes =>
      inferInstanceAs (Decidable (isPlainName tag = true ∧
        (∀ a ∈ attributes, isPlainName a.name = true) ∧ (names attributes).Nodup))
  | .ending tag => inferInstanceAs (Decidable (isPlainName tag = true))

theorem toNat_of_isPlainChar {c : Char} (h : isPlainChar c = true) :
    (0x61 ≤ c.toNat ∧ c.toNat ≤ 0x7A) ∨ (0x30 ≤ c.toNat ∧ c.toNat ≤ 0x39) ∨ c.toNat = 0x2D := by
  simp only [isPlainChar, Bool.or_eq_true, beq_iff_eq] at h
  rcases h with (h | h) | rfl
  · exact .inl (Text.isLower_iff.1 h)
  · exact .inr (.inl (Text.isDigit_iff.1 h))
  · exact .inr (.inr rfl)

theorem visible_toLower_of_isPlainChar {c : Char} (h : isPlainChar c = true) :
    visible c.toLower = c := by
  have hrange := toNat_of_isPlainChar h
  have hlower : c.toLower = c := Text.toLower_eq_self (by omega)
  rw [hlower, visible, if_neg]
  rintro rfl
  exact absurd h (by decide)

theorem plain_ne {c : Char} (h : isPlainChar c = true) :
    isSpace c = false ∧ c ≠ '/' ∧ c ≠ '>' ∧ c ≠ '=' ∧ c ≠ '!' ∧ c ≠ '?' ∧ c ≠ '\r' := by
  refine ⟨?_, ?_, ?_, ?_, ?_, ?_, ?_⟩
  · by_contra hspace
    simp only [isSpace, Bool.not_eq_false, Bool.or_eq_true, decide_eq_true_eq] at hspace
    rcases hspace with ((rfl | rfl) | rfl) | rfl <;> exact absurd h (by decide)
  all_goals
    rintro rfl
    exact absurd h (by decide)

theorem isPlainName_iff {name : String} :
    isPlainName name = true ↔
      ∃ c cs, name.toList = c :: cs ∧ c.isLower = true ∧ ∀ d ∈ c :: cs, isPlainChar d = true := by
  unfold isPlainName
  cases hname : name.toList with
  | nil => simp
  | cons c cs =>
      simp only [Bool.and_eq_true, List.all_eq_true, List.cons.injEq]
      constructor
      · rintro ⟨hc, hcs⟩
        refine ⟨c, cs, ⟨rfl, rfl⟩, hc, ?_⟩
        intro d hd
        rcases List.mem_cons.1 hd with rfl | hd
        · simp [isPlainChar, hc]
        · exact hcs d hd
      · rintro ⟨c', cs', ⟨rfl, rfl⟩, hc, hall⟩
        exact ⟨hc, fun d hd => hall d (List.mem_cons_of_mem _ hd)⟩

theorem plain_of_isPlainName {name : String} (h : isPlainName name = true) :
    ∀ c ∈ name.toList, isPlainChar c = true := by
  obtain ⟨c, cs, hname, -, hall⟩ := isPlainName_iff.1 h
  rwa [hname]

theorem Piece.Plain.unbroken {p : Piece} (h : p.Plain) : p.Unbroken := by
  have hname : ∀ name : String, isPlainName name = true → '\r' ∉ name.toList := by
    intro name hname hmem
    exact absurd (plain_of_isPlainName hname _ hmem) (by decide)
  cases p with
  | char c => trivial
  | opening tag attributes => exact ⟨hname tag h.1, fun a ha => hname a.name (h.2.1 a ha)⟩
  | ending tag => exact hname tag h

def Element.Plain (e : Element) : Prop :=
  (Piece.opening e.tag e.attributes).Plain

instance : DecidablePred Element.Plain := fun e =>
  inferInstanceAs (Decidable (Piece.opening e.tag e.attributes).Plain)

theorem plain_of_mem_pieces {nodes : List Node} (h : ∀ e ∈ elements nodes, e.Plain) :
    ∀ p ∈ pieces nodes, p.Plain := by
  intro p hp
  rcases mem_pieces nodes hp with ⟨c, rfl⟩ | ⟨e, he, rfl | rfl⟩
  · trivial
  · exact h e he
  · exact (h e he).1

/-! ## References -/

theorem read?_word (first : Char) (more text : List Char) (inValue : Bool)
    (hfirst : first ≠ '#') (hword : (first :: more).all Char.isAlphanum = true)
    (hnamed : Reference.named? (String.ofList (first :: more)) = some text) (rest : List Char) :
    Reference.read? inValue (first :: more ++ ';' :: rest) =
      some ⟨text, (first :: more).length + 1, true⟩ := by
  have htake : (first :: more ++ ';' :: rest).takeWhile Char.isAlphanum = first :: more := by
    rw [List.takeWhile_append_of_pos (List.all_eq_true.1 hword), List.takeWhile_cons_of_neg (by decide),
      List.append_nil]
  have hread : Reference.read? inValue (first :: more ++ ';' :: rest) =
      Reference.named inValue (first :: more ++ ';' :: rest) := by
    unfold Reference.read?
    split
    next heq => exact absurd (List.cons.inj heq).1 hfirst
    next heq => exact absurd (List.cons.inj heq).1 hfirst
    next heq => exact absurd (List.cons.inj heq).1 hfirst
    · rfl
  have hrest : (first :: more ++ ';' :: rest).drop (first :: more).length = ';' :: rest :=
    List.drop_left
  rw [hread, Reference.named]
  simp only [htake, hrest, List.head?_cons, beq_self_eq_true, if_true, hnamed, Option.map_some]

/-- A reader gets an escaped character back, and knows where its reference ends. -/
theorem read?_escape {c : Char} {escape : List Char} (inValue : Bool)
    (h : valueChar c = '&' :: escape) (rest : List Char) :
    Reference.read? inValue (escape ++ rest) = some ⟨[c], escape.length, true⟩ := by
  unfold valueChar at h
  split at h
  next hc =>
    cases h
    subst hc
    exact read?_word 'q' ['u', 'o', 't'] ['"'] inValue (by decide) (by decide) (by decide) rest
  · split at h
    next hc =>
      cases h
      subst hc
      rfl
    · unfold textChar at h
      split at h
      next hc =>
        cases h
        subst hc
        exact read?_word 'l' ['t'] ['<'] inValue (by decide) (by decide) (by decide) rest
      · split at h
        next hc =>
          cases h
          subst hc
          exact read?_word 'g' ['t'] ['>'] inValue (by decide) (by decide) (by decide) rest
        · split at h
          next hc =>
            cases h
            subst hc
            exact read?_word 'a' ['m', 'p'] ['&'] inValue (by decide) (by decide) (by decide) rest
          next hc =>
            cases h
            exact absurd rfl hc

/-! ## Text -/

theorem append_ofList_singleton (s : String) (c : Char) : s ++ String.ofList [c] = s.push c :=
  String.toList_inj.1 (by simp)

theorem push_append_ofList (s : String) (c : Char) (cs : List Char) :
    s.push c ++ String.ofList cs = s ++ String.ofList (c :: cs) :=
  String.toList_inj.1 (by simp)

theorem exists_escape_of_head {cs : List Char} (h : cs.head? = some '&') :
    ∃ escape, cs = '&' :: escape := by
  cases cs with
  | nil => cases h
  | cons c rest =>
      cases h
      exact ⟨rest, rfl⟩

theorem valueChar_eq_of_textChar {c : Char} {escape : List Char} (h : textChar c = '&' :: escape) :
    valueChar c = '&' :: escape := by
  unfold valueChar
  rw [if_neg, if_neg, h]
  · rintro rfl
    exact absurd (List.cons.inj h).1 (by decide)
  · rintro rfl
    exact absurd (List.cons.inj h).1 (by decide)

theorem readText_skip (done : String) (escape rest : List Char) :
    readText done escape.length (escape ++ rest) = readText done 0 rest := by
  induction escape with
  | nil => rfl
  | cons c cs ih =>
      rw [List.cons_append, List.length_cons, readText]
      exact ih

theorem readText_textChar (done : String) {c : Char} (hc : c ≠ '\x00') (rest : List Char) :
    readText done 0 (textChar c ++ rest) = readText (done.push c) 0 rest := by
  rcases textChar_cases c with heq | ⟨-, -, -, hhead⟩
  · have hbracket : c ≠ '<' := by
      rintro rfl
      exact absurd heq (by decide)
    have hamp : c ≠ '&' := by
      rintro rfl
      exact absurd heq (by decide)
    rw [heq, List.singleton_append, readText]
    simp [hbracket, hc, hamp]
  · obtain ⟨escape, hescape⟩ := exists_escape_of_head hhead
    have hread := read?_escape false (valueChar_eq_of_textChar hescape) rest
    rw [hescape, List.cons_append, readText, if_neg (by decide), if_pos rfl, hread]
    simp only
    rw [readText_skip, append_ofList_singleton]

theorem readText_flatMap {cs rest : List Char} (hcs : ∀ c ∈ cs, c ≠ '\x00')
    (hrest : ∀ c ∈ rest.head?, c = '<' ∨ c = '\x00') (done : String) :
    readText done 0 (cs.flatMap textChar ++ rest) = (done ++ String.ofList cs, rest) := by
  induction cs generalizing done with
  | nil =>
      rw [List.flatMap_nil, List.nil_append]
      cases rest with
      | nil => simp [readText]
      | cons c more =>
          have hstop : c = '<' ∨ c = '\x00' := hrest c rfl
          rw [readText, if_pos (by simpa using hstop)]
          simp
  | cons c cs ih =>
      rw [List.flatMap_cons, List.append_assoc, readText_textChar done (hcs c (by simp)),
        ih fun d hd => hcs d (List.mem_cons_of_mem _ hd), push_append_ofList]

/-- Text never starts with a number reference. -/
theorem startsUnterminated_textChar (c : Char) (rest : List Char) :
    startsUnterminated (textChar c ++ rest) = false := by
  unfold textChar
  split
  · rfl
  · split
    · rfl
    · split
      · rfl
      next hamp =>
        unfold startsUnterminated
        split
        next heq => exact absurd (List.cons.inj heq).1 hamp
        · rfl

/-! ## Tags -/

/-- An attribute as a reader shows it, without NUL in its value. -/
def Attribute.shown (a : Attribute) : Attribute :=
  ⟨a.name, String.ofList (a.value.toList.map visible)⟩

theorem readTag_skip (d : TagDraft) (part : TagPart) (escape rest : List Char) :
    readTag d part escape.length (escape ++ rest) = readTag d part 0 rest := by
  induction escape with
  | nil => rfl
  | cons c cs ih =>
      rw [List.cons_append, List.length_cons, readTag]
      exact ih

/-- A part of a tag that takes every plain character takes plain text whole. -/
theorem readTag_plain (part : TagPart) (put : String → TagDraft)
    (hput : ∀ s c rest, isPlainChar c = true →
      (put s).step part c rest = .go (put (s.push c)) part 0)
    {cs : List Char} (hcs : ∀ c ∈ cs, isPlainChar c = true) (s : String) (rest : List Char) :
    readTag (put s) part 0 (cs ++ rest) =
      readTag (put (s ++ String.ofList cs)) part 0 rest := by
  induction cs generalizing s with
  | nil => simp
  | cons c cs ih =>
      have hstep := hput s c (cs ++ rest) (hcs c (by simp))
      rw [List.cons_append, readTag, hstep]
      simp only
      rw [ih fun e he => hcs e (List.mem_cons_of_mem _ he), push_append_ofList]

theorem readTag_name {cs : List Char} (hcs : ∀ c ∈ cs, isPlainChar c = true) (d : TagDraft)
    (rest : List Char) :
    readTag d .name 0 (cs ++ rest) =
      readTag { d with name := d.name ++ String.ofList cs } .name 0 rest := by
  refine readTag_plain .name (fun s => { d with name := s }) ?_ hcs d.name rest
  intro s c rest hc
  obtain ⟨hspace, hslash, hbracket, -⟩ := plain_ne hc
  simp [TagDraft.step, TagDraft.pushName, hspace, hslash, hbracket,
    visible_toLower_of_isPlainChar hc]

theorem readTag_attrName {cs : List Char} (hcs : ∀ c ∈ cs, isPlainChar c = true) (d : TagDraft)
    (rest : List Char) :
    readTag d .attrName 0 (cs ++ rest) =
      readTag { d with attrName := d.attrName ++ String.ofList cs } .attrName 0 rest := by
  refine readTag_plain .attrName (fun s => { d with attrName := s }) ?_ hcs d.attrName rest
  intro s c rest hc
  obtain ⟨hspace, hslash, hbracket, hequals, -⟩ := plain_ne hc
  simp [TagDraft.step, TagDraft.pushAttr, hspace, hslash, hbracket, hequals,
    visible_toLower_of_isPlainChar hc]

theorem readTag_valueChar (d : TagDraft) (c : Char) (rest : List Char) :
    readTag d (.quoted '"') 0 (valueChar c ++ rest) =
      readTag (d.pushValue c) (.quoted '"') 0 rest := by
  rcases valueChar_cases c with heq | ⟨-, -, -, hhead⟩
  · have hquote : c ≠ '"' := by
      rintro rfl
      exact absurd heq (by decide)
    have hamp : c ≠ '&' := by
      rintro rfl
      exact absurd heq (by decide)
    have hstep : d.step (.quoted '"') c rest = .go (d.pushValue c) (.quoted '"') 0 := by
      simp [TagDraft.step, TagDraft.value, hquote, hamp]
    rw [heq, List.singleton_append, readTag, hstep]
  · obtain ⟨escape, hescape⟩ := exists_escape_of_head hhead
    have hread := read?_escape true hescape rest
    have hvisible : visible c = c := by
      rw [visible, if_neg]
      rintro rfl
      exact absurd hhead (by decide)
    have hstep : d.step (.quoted '"') '&' (escape ++ rest) =
        .go (d.pushValue c) (.quoted '"') escape.length := by
      rw [TagDraft.step, if_neg (by decide), TagDraft.value, if_pos rfl, hread]
      simp only
      rw [append_ofList_singleton, TagDraft.pushValue, hvisible]
    rw [hescape, List.cons_append, readTag, hstep]
    exact readTag_skip _ _ _ _

theorem readTag_value (d : TagDraft) (cs rest : List Char) :
    readTag d (.quoted '"') 0 (cs.flatMap valueChar ++ rest) =
      readTag { d with attrValue := d.attrValue ++ String.ofList (cs.map visible) }
        (.quoted '"') 0 rest := by
  induction cs generalizing d with
  | nil => simp
  | cons c cs ih =>
      rw [List.flatMap_cons, List.append_assoc, readTag_valueChar, ih, TagDraft.pushValue,
        push_append_ofList, List.map_cons]

def TagDraft.withAttr (d : TagDraft) (a : Attribute) : TagDraft :=
  { d.closeAttr with attrName := a.name, attrValue := a.shown.value }

theorem closeAttr_attrName (d : TagDraft) : d.closeAttr.attrName = "" := by
  unfold TagDraft.closeAttr
  split <;> rfl

theorem closeAttr_attrValue (d : TagDraft) : d.closeAttr.attrValue = "" := by
  unfold TagDraft.closeAttr
  split <;> rfl

theorem closeAttr_name (d : TagDraft) : d.closeAttr.name = d.name := by
  unfold TagDraft.closeAttr
  split <;> rfl

/-- The space in front of an attribute ends the name of the tag or nothing. -/
theorem readTag_space {part : TagPart} (hpart : part = .name ∨ part = .between) (d : TagDraft)
    (rest : List Char) : readTag d part 0 (' ' :: rest) = readTag d .between 0 rest := by
  rcases hpart with rfl | rfl <;> rfl

theorem readTag_attribute {part : TagPart} (hpart : part = .name ∨ part = .between) (d : TagDraft)
    {a : Attribute} (hname : isPlainName a.name = true) (rest : List Char) :
    readTag d part 0 (a.chars ++ rest) = readTag (d.withAttr a) .between 0 rest := by
  obtain ⟨c, cs, hchars, -, hplain⟩ := isPlainName_iff.1 hname
  obtain ⟨hspace, hslash, hbracket, -⟩ := plain_ne (hplain c (by simp))
  have hopen : d.openAttr c = { d.closeAttr with attrName := "".push c } := by
    rw [TagDraft.openAttr, TagDraft.pushAttr, visible_toLower_of_isPlainChar (hplain c (by simp)),
      closeAttr_attrName]
  have hstep : ∀ more, d.step .between c more = .go (d.openAttr c) .attrName 0 := by
    intro more
    simp [TagDraft.step, TagDraft.between, hspace, hslash, hbracket]
  have hshape : a.chars ++ rest =
      ' ' :: c :: (cs ++ '=' :: '"' :: (a.value.toList.flatMap valueChar ++ '"' :: rest)) := by
    simp [Attribute.chars, hchars]
  have hnames : "".push c ++ String.ofList cs = a.name := by
    rw [push_append_ofList, ← hchars]
    simp
  rw [hshape, readTag_space hpart, readTag, hstep]
  simp only
  rw [readTag_attrName fun e he => hplain e (List.mem_cons_of_mem _ he), hopen]
  simp only [hnames]
  -- The equals sign and the quote lead into the value, and the second quote leads out of it.
  show readTag _ (.quoted '"') 0 _ = _
  rw [readTag_value]
  show readTag _ .between 0 rest = _
  simp only [closeAttr_attrValue, TagDraft.withAttr, Attribute.shown, String.empty_append]

theorem closeAttr_withAttr {d : TagDraft} {a : Attribute} (hname : isPlainName a.name = true)
    (hnew : ∀ b ∈ d.closeAttr.attributes, b.name ≠ a.name) :
    (d.withAttr a).closeAttr.attributes = a.shown :: d.closeAttr.attributes := by
  obtain ⟨c, cs, hchars, -⟩ := isPlainName_iff.1 hname
  have hempty : a.name.isEmpty = false := by
    rw [Bool.eq_false_iff, ne_eq, String.isEmpty_iff]
    intro h
    simp [h] at hchars
  have hany : d.closeAttr.attributes.any (fun b => b.name == a.name) = false := by
    simpa using hnew
  rw [TagDraft.closeAttr, TagDraft.withAttr]
  simp only [hempty, hany, Bool.or_self, Bool.false_eq_true, if_false]
  rfl

def TagDraft.withAttrs (d : TagDraft) (attributes : List Attribute) : TagDraft :=
  attributes.foldl TagDraft.withAttr d

theorem withAttrs_name (d : TagDraft) (attributes : List Attribute) :
    (d.withAttrs attributes).name = d.name := by
  induction attributes generalizing d with
  | nil => rfl
  | cons a rest ih =>
      rw [TagDraft.withAttrs, List.foldl_cons]
      exact (ih _).trans (closeAttr_name d)

theorem closeAttr_withAttrs {d : TagDraft} {attributes : List Attribute}
    (hplain : ∀ a ∈ attributes, isPlainName a.name = true) (hdistinct : (names attributes).Nodup)
    (hnew : ∀ b ∈ d.closeAttr.attributes, b.name ∉ names attributes) :
    (d.withAttrs attributes).closeAttr.attributes =
      (attributes.map Attribute.shown).reverse ++ d.closeAttr.attributes := by
  induction attributes generalizing d with
  | nil => rfl
  | cons a rest ih =>
      obtain ⟨hfirst, hrest⟩ := List.nodup_cons.1 hdistinct
      have hclosed := closeAttr_withAttr (d := d) (hplain a (by simp)) fun b hb hname =>
        hnew b hb (by simp [names, hname])
      have hnew' : ∀ b ∈ (d.withAttr a).closeAttr.attributes, b.name ∉ names rest := by
        intro b hb
        rw [hclosed] at hb
        rcases List.mem_cons.1 hb with rfl | hb
        · exact hfirst
        · exact fun hmem => hnew b hb (List.mem_cons_of_mem _ hmem)
      rw [TagDraft.withAttrs, List.foldl_cons]
      refine (ih (fun b hb => hplain b (List.mem_cons_of_mem _ hb)) hrest hnew').trans ?_
      rw [hclosed]
      simp

theorem readTag_attributes {part : TagPart} (hpart : part = .name ∨ part = .between)
    (d : TagDraft) {attributes : List Attribute}
    (hplain : ∀ a ∈ attributes, isPlainName a.name = true) (rest : List Char) :
    ∃ part', (part' = .name ∨ part' = .between) ∧
      readTag d part 0 (attributes.flatMap Attribute.chars ++ rest) =
        readTag (d.withAttrs attributes) part' 0 rest := by
  induction attributes generalizing d part with
  | nil => exact ⟨part, hpart, rfl⟩
  | cons a more ih =>
      rw [List.flatMap_cons, List.append_assoc,
        readTag_attribute hpart d (hplain a (by simp))]
      exact ih (.inr rfl) _ fun b hb => hplain b (List.mem_cons_of_mem _ hb)

theorem readTag_bracketOf {part : TagPart} (hpart : part = .name ∨ part = .between)
    (d : TagDraft) (tag : String) (rest : List Char) :
    readTag d part 0 (bracketOf tag ++ rest) = some (d.finish (isVoid tag), rest) := by
  unfold bracketOf
  split
  next hvoid =>
    rw [hvoid]
    rcases hpart with rfl | rfl <;> rfl
  next hvoid =>
    rw [Bool.not_eq_true] at hvoid
    rw [hvoid]
    rcases hpart with rfl | rfl <;> rfl

theorem readTag_opening {tag : String} {attributes : List Attribute}
    (h : (Piece.opening tag attributes).Plain) (rest : List Char) :
    readTag .empty .name 0
        (tag.toList ++ (attributes.flatMap Attribute.chars ++ (bracketOf tag ++ rest))) =
      some (⟨tag, attributes.map Attribute.shown, isVoid tag⟩, rest) := by
  obtain ⟨htag, hplain, hdistinct⟩ := h
  rw [readTag_name (plain_of_isPlainName htag)]
  obtain ⟨part, hpart, hread⟩ := readTag_attributes (.inl rfl)
    { TagDraft.empty with name := TagDraft.empty.name ++ String.ofList tag.toList } hplain
    (bracketOf tag ++ rest)
  rw [hread, readTag_bracketOf hpart, TagDraft.finish, withAttrs_name,
    closeAttr_withAttrs hplain hdistinct (by simp [TagDraft.empty, TagDraft.closeAttr])]
  simp [TagDraft.empty, TagDraft.closeAttr]

/-! ## The next token -/

theorem isAlpha_of_isLower {c : Char} (h : c.isLower = true) : c.isAlpha = true := by
  show (c.isUpper || c.isLower) = true
  rw [h, Bool.or_true]

def openingToken (tag : String) (attributes : List Attribute) : Token :=
  .startTag ⟨tag, attributes.map Attribute.shown, isVoid tag⟩

theorem openingToken_eq {tag : String} {attributes : List Attribute}
    (h : ∀ a ∈ attributes, '\x00' ∉ a.value.toList) :
    openingToken tag attributes = .startTag ⟨tag, attributes, isVoid tag⟩ := by
  have hvalues : attributes.map Attribute.shown = attributes := by
    refine map_eq_self fun a ha => ?_
    have hvisible : a.value.toList.map visible = a.value.toList := by
      refine map_eq_self fun c hc => if_neg ?_
      rintro rfl
      exact h a ha hc
    simp [Attribute.shown, hvisible]
  rw [openingToken, hvalues]

theorem next?_opening {tag : String} {attributes : List Attribute}
    (h : (Piece.opening tag attributes).Plain) (foreign : Bool) (rest : List Char) :
    next? .data foreign ((Piece.opening tag attributes).chars ++ rest) =
      some ⟨openingToken tag attributes, rest⟩ := by
  obtain ⟨c, cs, hchars, hlower, hplain⟩ := isPlainName_iff.1 h.1
  obtain ⟨-, hslash, -, -, hbang, hquestion, -⟩ := plain_ne (hplain c (by simp))
  have hread := readTag_opening h rest
  have hshape : (Piece.opening tag attributes).chars ++ rest =
      '<' :: (tag.toList ++ (attributes.flatMap Attribute.chars ++ (bracketOf tag ++ rest))) := by
    simp [Piece.chars]
  rw [hshape, next?]
  simp only [if_true]
  rw [hchars, List.cons_append] at hread ⊢
  -- A name starts with a letter, so the bracket opens none of the other kinds of markup.
  unfold readMarkup?
  split
  next heq => cases heq
  next heq => exact absurd (List.cons.inj heq).1 hbang
  next heq => exact absurd (List.cons.inj heq).1 hquestion
  next heq => exact absurd (List.cons.inj heq).1 hslash
  next heq => exact absurd (List.cons.inj heq).1 hslash
  next heq => exact absurd (List.cons.inj heq).1 hslash
  next c' cs' _ _ _ _ _ heq =>
    cases heq
    rw [if_pos (isAlpha_of_isLower hlower), hread]
    rfl

theorem next?_ending {tag : String} (h : isPlainName tag = true) (foreign : Bool)
    (rest : List Char) :
    next? .data foreign ((Piece.ending tag).chars ++ rest) = some ⟨.endTag tag, rest⟩ := by
  obtain ⟨c, cs, hchars, hlower, hplain⟩ := isPlainName_iff.1 h
  obtain ⟨-, -, hbracket, -⟩ := plain_ne (hplain c (by simp))
  have hshape : (Piece.ending tag).chars ++ rest = '<' :: '/' :: (tag.toList ++ '>' :: rest) := by
    simp [Piece.chars]
  have hread : readEndTag? (tag.toList ++ '>' :: rest) = some ⟨.endTag tag, rest⟩ := by
    rw [readEndTag?, readTag_name (plain_of_isPlainName h)]
    show some (Lexed.mk (.endTag ("" ++ String.ofList tag.toList)) rest) = _
    simp
  rw [hshape, next?]
  simp only [if_true]
  rw [hchars, List.cons_append] at hread ⊢
  unfold readMarkup?
  split
  next heq => cases heq
  next heq => exact absurd (List.cons.inj heq).1 (by decide)
  next heq => exact absurd (List.cons.inj heq).1 (by decide)
  next heq => cases heq
  next heq =>
    cases heq
    exact absurd rfl hbracket
  next heq =>
    cases heq
    rw [if_pos (isAlpha_of_isLower hlower), hread]
  next hslash heq =>
    cases heq
    exact (hslash _ _ rfl rfl).elim

theorem next?_null (foreign : Bool) (rest : List Char) :
    next? .data foreign ((Piece.char '\x00').chars ++ rest) = some ⟨.null, rest⟩ := rfl

theorem exists_head_textChar {c : Char} (hc : c ≠ '\x00') :
    ∃ first more, textChar c = first :: more ∧ first ≠ '<' ∧ first ≠ '\x00' := by
  rcases textChar_cases c with heq | ⟨-, -, -, hhead⟩
  · refine ⟨c, [], heq, ?_, hc⟩
    rintro rfl
    exact absurd heq (by decide)
  · obtain ⟨escape, hescape⟩ := exists_escape_of_head hhead
    exact ⟨'&', escape, hescape, by decide, by decide⟩

/-- Text between two tags is one token. -/
theorem next?_text {c : Char} {cs rest : List Char} (hcs : ∀ d ∈ c :: cs, d ≠ '\x00')
    (hrest : ∀ d ∈ rest.head?, d = '<' ∨ d = '\x00') (foreign : Bool) :
    next? .data foreign ((c :: cs).flatMap textChar ++ rest) =
      some ⟨.text (String.ofList (c :: cs)) false, rest⟩ := by
  obtain ⟨first, more, hchar, hbracket, hnull⟩ := exists_head_textChar (hcs c (by simp))
  have hshape : (c :: cs).flatMap textChar ++ rest =
      first :: (more ++ (cs.flatMap textChar ++ rest)) := by
    simp [hchar]
  have hread := readText_flatMap hcs hrest ""
  have hterminated : startsUnterminated ((c :: cs).flatMap textChar ++ rest) = false := by
    rw [List.flatMap_cons, List.append_assoc]
    exact startsUnterminated_textChar c _
  rw [hshape] at hread hterminated ⊢
  rw [next?]
  simp only [if_neg hbracket, if_neg hnull]
  rw [textToken, hread, hterminated]
  simp

/-- The pieces that one token of text takes: the characters in front of the first tag or NUL. -/
theorem exists_text_run (ps : List Piece) :
    ∃ (cs : List Char) (rest : List Piece), ps = cs.map Piece.char ++ rest ∧ (∀ c ∈ cs, c ≠ '\x00') ∧
      ∀ d ∈ (rest.flatMap Piece.chars).head?, d = '<' ∨ d = '\x00' := by
  induction ps with
  | nil => exact ⟨[], [], rfl, by simp, by simp⟩
  | cons p more ih =>
      cases p with
      | char c =>
          by_cases hc : c = '\x00'
          · subst hc
            exact ⟨[], _, rfl, by simp, fun d hd => .inr (Option.some.inj hd).symm⟩
          · obtain ⟨cs, rest, rfl, hcs, hrest⟩ := ih
            refine ⟨c :: cs, rest, rfl, ?_, hrest⟩
            intro d hd
            rcases List.mem_cons.1 hd with rfl | hd
            · exact hc
            · exact hcs d hd
      | opening tag attributes =>
          exact ⟨[], _, rfl, by simp, fun d hd => .inl (Option.some.inj hd).symm⟩
      | ending tag =>
          exact ⟨[], _, rfl, by simp, fun d hd => .inl (Option.some.inj hd).symm⟩

/-- A token that stands for one of these pieces, or for text. -/
inductive Token.IsOf (ps : List Piece) : Token → Prop
  | text (content : String) : IsOf ps (.text content false)
  | null : IsOf ps .null
  | opening {tag : String} {attributes : List Attribute} (h : .opening tag attributes ∈ ps) :
      IsOf ps (openingToken tag attributes)
  | ending {tag : String} (h : .ending tag ∈ ps) : IsOf ps (.endTag tag)

theorem Token.IsOf.mono {ps qs : List Piece} {token : Token} (h : token.IsOf ps)
    (hsub : ∀ p ∈ ps, p ∈ qs) : token.IsOf qs := by
  cases h with
  | text content => exact .text content
  | null => exact .null
  | opening h => exact .opening (hsub _ h)
  | ending h => exact .ending (hsub _ h)

/-- **A written document is read piece by piece**: the next token stands for the pieces in front, and
what follows is the written form of the others. -/
theorem next?_flatMap_chars {ps : List Piece} (hplain : ∀ p ∈ ps, p.Plain) {foreign : Bool}
    {lexed : Lexed} (h : next? .data foreign (ps.flatMap Piece.chars) = some lexed) :
    lexed.token.IsOf ps ∧
      ∃ rest : List Piece, lexed.rest = rest.flatMap Piece.chars ∧ ∀ p ∈ rest, p ∈ ps := by
  cases ps with
  | nil => cases h
  | cons p more =>
      have hmore : ∀ q ∈ more, q ∈ p :: more := fun q hq => List.mem_cons_of_mem _ hq
      have hp := hplain p (by simp)
      cases p with
      | opening tag attributes =>
          rw [List.flatMap_cons, next?_opening hp] at h
          cases h
          exact ⟨.opening (by simp), more, rfl, hmore⟩
      | ending tag =>
          rw [List.flatMap_cons, next?_ending hp] at h
          cases h
          exact ⟨.ending (by simp), more, rfl, hmore⟩
      | char c =>
          by_cases hc : c = '\x00'
          · subst hc
            rw [List.flatMap_cons, next?_null] at h
            cases h
            exact ⟨.null, more, rfl, hmore⟩
          · obtain ⟨cs, rest, hsplit, hcs, hrest⟩ := exists_text_run more
            have hchars : (Piece.char c :: more).flatMap Piece.chars =
                (c :: cs).flatMap textChar ++ rest.flatMap Piece.chars := by
              rw [hsplit, List.flatMap_cons, List.flatMap_append, List.flatMap_map,
                List.flatMap_cons, List.append_assoc]
              rfl
            have hvisible : ∀ d ∈ c :: cs, d ≠ '\x00' := by
              intro d hd
              rcases List.mem_cons.1 hd with rfl | hd
              · exact hc
              · exact hcs d hd
            rw [hchars, next?_text hvisible hrest] at h
            cases h
            exact ⟨.text _, rest, rfl, fun q hq => hmore q (by simp [hsplit, hq])⟩

end SafeReadme.Html
