import Mathlib.Data.List.Basic
import Mathlib.Data.List.Find
import SafeReadme.Page
import SafeReadme.Proofs.Html.Delimiters

/-!
# The search for images on raw hosts

The search looks for a source attribute in flat text. In a written tag a blank, the name and a quote
with a raw host behind it occur together only where the tag really has such a source: a value holds
no quote, and what follows the quote that ends a value is no address.
-/

namespace SafeReadme.Page

open Html

/-! ## Sources on raw hosts -/

def rawLength? (cs : List Char) : Option Nat :=
  (rawRoots.find? (·.isPrefixOf cs)).map List.length

def sourceLength? (a : Attribute) : Option Nat :=
  if a.name = "src" then rawLength? a.value.toList else none

theorem exists_of_rawLength? {cs : List Char} {length : Nat} (h : rawLength? cs = some length) :
    ∃ root ∈ rawRoots, ∃ path, cs = root ++ path ∧ root.length = length := by
  obtain ⟨root, hfind, rfl⟩ := Option.map_eq_some_iff.1 h
  have hmem := List.mem_of_find?_eq_some hfind
  have hstart := List.find?_some hfind
  obtain ⟨path, hpath⟩ := List.isPrefixOf_iff_prefix.1 hstart
  exact ⟨root, hmem, path, hpath.symm, rfl⟩

theorem rawLength?_eq_none {cs : List Char} (h : cs.head? ≠ some 'h') : rawLength? cs = none := by
  cases hlength : rawLength? cs with
  | none => rfl
  | some length =>
      have hroots : rawRoots.all (·.head? == some 'h') = true := by decide
      obtain ⟨root, hroot, path, rfl, -⟩ := exists_of_rawLength? hlength
      have hhead : root.head? = some 'h' := beq_iff_eq.1 (List.all_eq_true.1 hroots root hroot)
      exact absurd (by rw [List.head?_append, hhead]; rfl) h

theorem isPrefixOf_value {root : List Char} (hroot : ∀ c ∈ root, valueChar c = [c])
    (cs rest : List Char) :
    root.isPrefixOf (cs.flatMap valueChar ++ '"' :: rest) = root.isPrefixOf cs := by
  induction root generalizing cs with
  | nil => rw [List.isPrefixOf_nil_left, List.isPrefixOf_nil_left]
  | cons r root ih =>
      have hr : valueChar r = [r] := hroot r (by simp)
      have hmore := ih fun c hc => hroot c (List.mem_cons_of_mem _ hc)
      cases cs with
      | nil =>
          have hquote : (r == '"') = false := by
            rw [beq_eq_false_iff_ne]
            rintro rfl
            exact absurd hr (by decide)
          simp [List.isPrefixOf, hquote]
      | cons c cs =>
          rw [List.flatMap_cons, List.append_assoc]
          rcases valueChar_cases c with heq | ⟨-, -, -, hhead⟩
          · rw [heq, List.singleton_append, List.isPrefixOf, List.isPrefixOf, hmore]
          · obtain ⟨escape, hescape⟩ := exists_escape_of_head hhead
            have hamp : (r == '&') = false := by
              rw [beq_eq_false_iff_ne]
              rintro rfl
              exact absurd hr (by decide)
            have hne : (r == c) = false := by
              rw [beq_eq_false_iff_ne]
              rintro rfl
              rw [hr, List.head?_singleton, Option.some.injEq] at hhead
              exact absurd hhead (by simpa using hamp)
            rw [hescape, List.cons_append, List.isPrefixOf, List.isPrefixOf, hamp, hne,
              Bool.false_and, Bool.false_and]

theorem valueChar_rawRoots : ∀ root ∈ rawRoots, ∀ c ∈ root, valueChar c = [c] := by
  have hall : rawRoots.all (·.all fun c => valueChar c == [c]) = true := by decide
  intro root hroot c hc
  exact beq_iff_eq.1 (List.all_eq_true.1 (List.all_eq_true.1 hall root hroot) c hc)

theorem rawLength?_value (cs rest : List Char) :
    rawLength? (cs.flatMap valueChar ++ '"' :: rest) = rawLength? cs := by
  have hsame : ∀ root ∈ rawRoots,
      root.isPrefixOf (cs.flatMap valueChar ++ '"' :: rest) = root.isPrefixOf cs :=
    fun root hroot => isPrefixOf_value (valueChar_rawRoots root hroot) cs rest
  rw [rawLength?, List.find?_congr hsame]
  rfl

theorem rawSource?_eq (cs : List Char) :
    rawSource? cs = (sourceStart.isPrefixOf? cs).bind rawLength? :=
  rfl

def written (a : Attribute) : List Char :=
  a.name.toList ++ '=' :: '"' :: (a.value.toList.flatMap valueChar ++ ['"'])

theorem chars_eq (a : Attribute) : a.chars = ' ' :: written a :=
  rfl

theorem written_append (a : Attribute) (rest : List Char) :
    written a ++ rest =
      a.name.toList ++ '=' :: '"' :: (a.value.toList.flatMap valueChar ++ '"' :: rest) := by
  simp [written]

theorem rawSource?_written {a : Attribute} (h : isPlainName a.name = true) (rest : List Char) :
    rawSource? (written a ++ rest) = sourceLength? a := by
  rw [written_append, rawSource?_eq]
  by_cases hsource : a.name = "src"
  · have hstart : sourceStart.isPrefixOf?
        (a.name.toList ++ '=' :: '"' :: (a.value.toList.flatMap valueChar ++ '"' :: rest)) =
        some (a.value.toList.flatMap valueChar ++ '"' :: rest) := by
      rw [List.isPrefixOf?_eq_some_iff_append_eq, hsource]
      rfl
    rw [hstart, Option.bind_some, rawLength?_value, sourceLength?, if_pos hsource]
  · rw [sourceLength?, if_neg hsource]
    cases hstart : sourceStart.isPrefixOf?
        (a.name.toList ++ '=' :: '"' :: (a.value.toList.flatMap valueChar ++ '"' :: rest)) with
    | none => rfl
    | some value =>
        have hname : isPlainName "src" = true := rfl
        have heq := List.isPrefixOf?_eq_some_iff_append_eq.1 hstart
        exact absurd (name_append_inj h hname (by decide) (by decide) heq.symm) hsource

/-- What stands before the quote that ends a value, and what stands behind it, is no source. -/
theorem rawSource?_quoted {cs rest : List Char} (hcs : '"' ∉ cs) (hrest : rest.head? ≠ some 'h') :
    rawSource? (cs ++ '"' :: rest) = none := by
  rw [rawSource?_eq]
  cases hstart : sourceStart.isPrefixOf? (cs ++ '"' :: rest) with
  | none => rfl
  | some value =>
      have hname : '"' ∉ "src=".toList := by decide
      have hfound := List.isPrefixOf?_eq_some_iff_append_eq.1 hstart
      have heq : "src=".toList ++ '"' :: value = cs ++ '"' :: rest := hfound
      have hbehind := congrArg (List.dropWhile (· != '"')) heq
      rw [dropWhile_delimiter hname, dropWhile_delimiter hcs] at hbehind
      obtain rfl := (List.cons.inj hbehind).2
      exact rawLength?_eq_none hrest

/-! ## The search in a tag -/

theorem laterSource?_pass (passed : Nat) {cs : List Char}
    (h : ∀ c ∈ cs, c ≠ '>' ∧ Text.isBlank c = false) (rest : List Char) :
    laterSource? passed (cs ++ rest) = laterSource? (passed + cs.length) rest := by
  induction cs generalizing passed with
  | nil => rfl
  | cons c cs ih =>
      have hc : (c == '>') = false := by simpa using (h c (by simp)).1
      have hblank := (h c (by simp)).2
      have hmore := ih (passed + 1) fun d hd => h d (List.mem_cons_of_mem _ hd)
      rw [List.cons_append, laterSource?, hc, hblank, if_neg (by decide), if_neg (by decide), hmore,
        List.length_cons]
      congr 1
      omega

theorem laterSource?_blank (passed : Nat) {c : Char} (h : Text.isBlank c = true)
    {cs : List Char} (hcs : rawSource? cs = none) :
    laterSource? passed (c :: cs) = laterSource? (passed + 1) cs := by
  have hc : (c == '>') = false := by
    rw [beq_eq_false_iff_ne]
    rintro rfl
    exact absurd h (by decide)
  rw [laterSource?, hc, h, if_neg (by decide), if_pos rfl, hcs]

/-- No value holds a source, and none starts in one. -/
theorem laterSource?_quoted (passed : Nat) {cs rest : List Char} (hclose : '>' ∉ cs)
    (hquote : '"' ∉ cs) (hrest : rest.head? ≠ some 'h') :
    laterSource? passed (cs ++ '"' :: rest) = laterSource? (passed + (cs.length + 1)) rest := by
  induction cs generalizing passed with
  | nil => rfl
  | cons c cs ih =>
      rw [List.mem_cons, not_or] at hclose hquote
      have hmore := ih (passed + 1) hclose.2 hquote.2
      have hcount : passed + 1 + (cs.length + 1) = passed + ((c :: cs).length + 1) := by
        rw [List.length_cons]
        omega
      rw [hcount] at hmore
      rw [List.cons_append, ← hmore]
      cases hblank : Text.isBlank c with
      | true => exact laterSource?_blank passed hblank (rawSource?_quoted hquote.2 hrest)
      | false =>
          have hc : ∀ d ∈ [c], d ≠ '>' ∧ Text.isBlank d = false := by
            simpa [hblank] using Ne.symm hclose.1
          exact laterSource?_pass passed hc _

theorem laterSource?_written (passed : Nat) {a : Attribute} (h : isPlainName a.name = true)
    {rest : List Char} (hrest : rest.head? ≠ some 'h') :
    laterSource? passed (written a ++ rest) =
      laterSource? (passed + (written a).length) rest := by
  have hname : ∀ c ∈ a.name.toList ++ ['=', '"'], c ≠ '>' ∧ Text.isBlank c = false := by
    intro c hc
    rcases List.mem_append.1 hc with hc | hc
    · have hplain := plain_of_isPlainName h c hc
      exact ⟨(plain_ne hplain).2.2.1, isBlank_of_isPlainChar hplain⟩
    · have hall : ['=', '"'].all (fun c => c != '>' && !Text.isBlank c) = true := by decide
      simpa using List.all_eq_true.1 hall c hc
  obtain ⟨-, hclose, hquote⟩ := not_mem_value a.value.toList
  have hsplit : written a ++ rest =
      (a.name.toList ++ ['=', '"']) ++ (a.value.toList.flatMap valueChar ++ '"' :: rest) := by
    simp [written_append]
  have hcount : passed + (a.name.toList ++ ['=', '"']).length +
      ((a.value.toList.flatMap valueChar).length + 1) = passed + (written a).length := by
    simp only [written, List.length_append, List.length_cons, List.length_nil]
    omega
  rw [hsplit, laterSource?_pass passed hname, laterSource?_quoted _ hclose hquote hrest, hcount]

theorem laterSource?_attribute (passed : Nat) {a : Attribute} (h : isPlainName a.name = true)
    {rest : List Char} (hrest : rest.head? ≠ some 'h') :
    laterSource? passed (a.chars ++ rest) =
      match sourceLength? a with
      | some length => some (passed + 1 + sourceStart.length, length)
      | none => laterSource? (passed + a.chars.length) rest := by
  have hsource := rawSource?_written h rest
  cases hlength : sourceLength? a with
  | some length =>
      rw [chars_eq, List.cons_append, laterSource?, if_neg (by decide), if_pos (by decide), hsource,
        hlength]
  | none =>
      have hcount : passed + 1 + (written a).length = passed + a.chars.length := by
        rw [chars_eq, List.length_cons]
        omega
      rw [chars_eq, List.cons_append, laterSource?_blank passed (by decide) (hsource.trans hlength),
        laterSource?_written _ h hrest, hcount]
      rfl

theorem head_attributes_append (attributes : List Attribute) {rest : List Char}
    (hrest : rest.head? ≠ some 'h') :
    (attributes.flatMap Attribute.chars ++ rest).head? ≠ some 'h' := by
  cases attributes with
  | nil => exact hrest
  | cons a more => simp [Attribute.chars]

theorem laterSource?_attributes (passed : Nat) {attributes : List Attribute}
    (hplain : ∀ a ∈ attributes, isPlainName a.name = true)
    (hnone : ∀ a ∈ attributes, sourceLength? a = none) {rest : List Char}
    (hrest : rest.head? ≠ some 'h') :
    laterSource? passed (attributes.flatMap Attribute.chars ++ rest) =
      laterSource? (passed + (attributes.flatMap Attribute.chars).length) rest := by
  induction attributes generalizing passed with
  | nil => rfl
  | cons a more ih =>
      have hmore := ih (passed + a.chars.length) (fun b hb => hplain b (List.mem_cons_of_mem _ hb))
        fun b hb => hnone b (List.mem_cons_of_mem _ hb)
      rw [List.flatMap_cons, List.append_assoc,
        laterSource?_attribute passed (hplain a (by simp)) (head_attributes_append more hrest),
        hnone a (by simp)]
      simp only
      rw [hmore, List.length_append, Nat.add_assoc]

theorem laterSource?_bracketOf (passed : Nat) (tag : String) (rest : List Char) :
    laterSource? passed (bracketOf tag ++ rest) = none := by
  unfold bracketOf
  split <;> rfl

theorem head_bracketOf_append (tag : String) (rest : List Char) :
    (bracketOf tag ++ rest).head? ≠ some 'h' := by
  unfold bracketOf
  split <;> simp

/-! ## The search in a start tag -/

theorem imageSource?_of_ne {tag : String} (htag : isPlainName tag = true) (himage : tag ≠ "img")
    {c : Char} (hc : isPlainChar c = false) (cs : List Char) :
    imageSource? (tag.toList ++ c :: cs) = none := by
  unfold imageSource?
  split
  next d more heq =>
    split
    next hblank =>
      have hd : isPlainChar d = false := by
        by_contra hplain
        rw [isBlank_of_isPlainChar (by simpa using hplain)] at hblank
        cases hblank
      have hname : isPlainName "img" = true := rfl
      exact absurd (name_append_inj htag hname hc hd heq) himage
    · rfl
  · rfl

/-- The first attribute of an image counts only if no later one does. -/
theorem imageSource?_attribute {a : Attribute} (h : isPlainName a.name = true) {rest : List Char}
    (hrest : rest.head? ≠ some 'h') :
    imageSource? ("img".toList ++ (a.chars ++ rest)) =
      (laterSource? (3 + a.chars.length) rest).or
        ((sourceLength? a).map (4 + sourceStart.length, ·)) := by
  have hcount : 3 + a.chars.length = 4 + (written a).length := by
    rw [chars_eq, List.length_cons]
    omega
  have hlater := laterSource?_written 4 h hrest
  have hfirst := rawSource?_written h rest
  rw [hcount, ← hlater, ← hfirst]
  show imageSource? ('i' :: 'm' :: 'g' :: ' ' :: (written a ++ rest)) = _
  rw [imageSource?, if_pos (by decide)]

theorem imageSource?_eq_none {attributes : List Attribute}
    (hplain : ∀ a ∈ attributes, isPlainName a.name = true)
    (hnone : ∀ a ∈ attributes, sourceLength? a = none) (rest : List Char) :
    imageSource? ("img".toList ++ (attributes.flatMap Attribute.chars ++ (bracketOf "img" ++ rest))) =
      none := by
  have hbracket := head_bracketOf_append "img" rest
  cases attributes with
  | nil => rfl
  | cons a more =>
      have hplainMore : ∀ b ∈ more, isPlainName b.name = true :=
        fun b hb => hplain b (List.mem_cons_of_mem _ hb)
      have hnoneMore : ∀ b ∈ more, sourceLength? b = none :=
        fun b hb => hnone b (List.mem_cons_of_mem _ hb)
      rw [List.flatMap_cons, List.append_assoc,
        imageSource?_attribute (hplain a (by simp)) (head_attributes_append more hbracket),
        laterSource?_attributes _ hplainMore hnoneMore hbracket, laterSource?_bracketOf,
        hnone a (by simp)]
      rfl

/-- The one source on a raw host is found, wherever it stands among the attributes. -/
theorem imageSource?_eq_some {before after : List Attribute} {a : Attribute} {length : Nat}
    (hplain : ∀ b ∈ before ++ a :: after, isPlainName b.name = true)
    (hbefore : ∀ b ∈ before, sourceLength? b = none)
    (hafter : ∀ b ∈ after, sourceLength? b = none) (ha : sourceLength? a = some length)
    (rest : List Char) :
    imageSource? ("img".toList ++
        (before.flatMap Attribute.chars ++
          (a.chars ++ (after.flatMap Attribute.chars ++ (bracketOf "img" ++ rest))))) =
      some (("img".toList ++ before.flatMap Attribute.chars ++ ' ' :: sourceStart).length,
        length) := by
  have hself : isPlainName a.name = true := hplain a (by simp)
  have hbracket := head_bracketOf_append "img" rest
  have hbehind := head_attributes_append after hbracket
  cases before with
  | nil =>
      have hplainAfter : ∀ b ∈ after, isPlainName b.name = true :=
        fun b hb => hplain b (by simp [hb])
      rw [List.flatMap_nil, List.nil_append, imageSource?_attribute hself hbehind,
        laterSource?_attributes _ hplainAfter hafter hbracket, laterSource?_bracketOf, ha]
      rfl
  | cons b more =>
      have hplainMore : ∀ c ∈ more, isPlainName c.name = true := fun c hc => hplain c (by simp [hc])
      have hnoneMore : ∀ c ∈ more, sourceLength? c = none :=
        fun c hc => hbefore c (List.mem_cons_of_mem _ hc)
      have hspace : (a.chars ++ (after.flatMap Attribute.chars ++
          (bracketOf "img" ++ rest))).head? ≠ some 'h' := by
        simp [Attribute.chars]
      have himage : "img".toList.length = 3 := rfl
      rw [List.flatMap_cons, List.append_assoc,
        imageSource?_attribute (hplain b (by simp)) (head_attributes_append more hspace),
        laterSource?_attributes _ hplainMore hnoneMore hspace, laterSource?_attribute _ hself hbehind,
        ha]
      simp only [Option.some_or, Option.some.injEq, Prod.mk.injEq, and_true, List.length_append,
        List.length_cons]
      omega

end SafeReadme.Page
