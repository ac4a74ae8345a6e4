import SafeReadme.Proofs.Html.Unique
import SafeReadme.Text.Basic

/-!
# The delimiters of a written document

Angle brackets stand at the two ends of a tag and nowhere else, and a double quote stands at the two
ends of a value. A reader that looks only for these characters finds the tags.
-/

namespace SafeReadme.Html

theorem dropWhile_delimiter {d : Char} {cs : List Char} (h : d ∉ cs) (rest : List Char) :
    (cs ++ d :: rest).dropWhile (· != d) = d :: rest := by
  have hpass : ∀ c ∈ cs, (c != d) = true := by
    intro c hc
    simpa using fun heq : c = d => h (heq ▸ hc)
  rw [List.dropWhile_append_of_pos hpass, List.dropWhile_cons_of_neg (by simp)]

/-! ## Text and values -/

theorem not_mem_textChar (c : Char) :
    '<' ∉ textChar c ∧ '>' ∉ textChar c ∧ (c ≠ '"' → '"' ∉ textChar c) := by
  unfold textChar
  split
  · exact ⟨by decide, by decide, fun _ => by decide⟩
  next hopen =>
    split
    · exact ⟨by decide, by decide, fun _ => by decide⟩
    next hclose =>
      split
      · exact ⟨by decide, by decide, fun _ => by decide⟩
      · simpa [eq_comm] using And.intro hopen hclose

theorem not_mem_valueChar (c : Char) :
    '<' ∉ valueChar c ∧ '>' ∉ valueChar c ∧ '"' ∉ valueChar c := by
  unfold valueChar
  split
  · decide
  next hquote =>
    split
    · decide
    · have htext := not_mem_textChar c
      exact ⟨htext.1, htext.2.1, htext.2.2 hquote⟩

theorem open_not_mem_text (cs : List Char) : '<' ∉ cs.flatMap textChar := by
  intro h
  obtain ⟨c, -, hc⟩ := List.mem_flatMap.1 h
  exact (not_mem_textChar c).1 hc

theorem not_mem_value (cs : List Char) :
    '<' ∉ cs.flatMap valueChar ∧ '>' ∉ cs.flatMap valueChar ∧ '"' ∉ cs.flatMap valueChar := by
  refine ⟨?_, ?_, ?_⟩ <;> intro h <;> obtain ⟨c, -, hc⟩ := List.mem_flatMap.1 h
  · exact (not_mem_valueChar c).1 hc
  · exact (not_mem_valueChar c).2.1 hc
  · exact (not_mem_valueChar c).2.2 hc

/-! ## Tags -/

theorem isBlank_of_isPlainChar {c : Char} (h : isPlainChar c = true) : Text.isBlank c = false := by
  have hrange := toNat_of_isPlainChar h
  simp only [Text.isBlank, Bool.or_eq_false_iff, Bool.and_eq_false_iff, decide_eq_false_iff_not,
    beq_eq_false_iff_ne]
  omega

theorem not_mem_name {name : String} (h : isPlainName name = true) :
    '<' ∉ name.toList ∧ '>' ∉ name.toList := by
  have hplain := plain_of_isPlainName h
  constructor <;> intro hmem <;> exact absurd (hplain _ hmem) (by decide)

theorem not_mem_attribute {a : Attribute} (h : isPlainName a.name = true) :
    '<' ∉ a.chars ∧ '>' ∉ a.chars := by
  have hname := not_mem_name h
  have hvalue := not_mem_value a.value.toList
  simp [Attribute.chars, hname, hvalue]

theorem not_mem_attributes {attributes : List Attribute}
    (h : ∀ a ∈ attributes, isPlainName a.name = true) :
    '<' ∉ attributes.flatMap Attribute.chars ∧ '>' ∉ attributes.flatMap Attribute.chars := by
  constructor <;> intro hmem <;> obtain ⟨a, ha, hchar⟩ := List.mem_flatMap.1 hmem
  · exact (not_mem_attribute (h a ha)).1 hchar
  · exact (not_mem_attribute (h a ha)).2 hchar

/-- Between the name of a start tag and the bracket that ends it stands no angle bracket. -/
theorem exists_inside {tag : String} {attributes : List Attribute}
    (h : (Piece.opening tag attributes).Plain) :
    ∃ inside, attributes.flatMap Attribute.chars ++ bracketOf tag = inside ++ ['>'] ∧
      (∀ c ∈ inside.head?, c = ' ') ∧ '<' ∉ inside ∧ '>' ∉ inside := by
  have hattributes := not_mem_attributes h.2.1
  have hhead : ∀ c ∈ (attributes.flatMap Attribute.chars).head?, c = ' ' := by
    cases attributes with
    | nil => simp
    | cons a more => simp [Attribute.chars]
  cases hvoid : isVoid tag with
  | false => exact ⟨attributes.flatMap Attribute.chars, by simp [bracketOf, hvoid], hhead, hattributes⟩
  | true =>
      refine ⟨attributes.flatMap Attribute.chars ++ [' ', '/'], by simp [bracketOf, hvoid], ?_, ?_⟩
      · cases attributes with
        | nil => simp
        | cons a more => simp [Attribute.chars]
      · simp [hattributes]

theorem open_not_mem_opening {tag : String} {attributes : List Attribute}
    (h : (Piece.opening tag attributes).Plain) :
    '<' ∉ tag.toList ++ (attributes.flatMap Attribute.chars ++ bracketOf tag) := by
  obtain ⟨inside, heq, -, hopen, -⟩ := exists_inside h
  simp [heq, not_mem_name h.1, hopen]

theorem name_append_inj {name other : String} {c d : Char} {x y : List Char}
    (hname : isPlainName name = true) (hother : isPlainName other = true)
    (hc : isPlainChar c = false) (hd : isPlainChar d = false)
    (h : name.toList ++ c :: x = other.toList ++ d :: y) : name = other :=
  String.toList_inj.1
    (name_inj (plain_of_isPlainName hname) (plain_of_isPlainName hother) hc hd h).1

end SafeReadme.Html
