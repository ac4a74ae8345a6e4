import SafeReadme.Proofs.Markdown.Word
import SafeReadme.Renderer

/-!
# The size of a README

The limit of a policy holds twice: for the Markdown that is given, and for the HTML that it becomes.
As HTML is longer than the words in it, a README that is within the limit may be refused for its
size. Only a limit that no HTML can exceed, or that admits nothing but the empty README, excludes
this. As the machine bounds the size of a text, the bound is a parameter here.
-/

namespace SafeReadme

open Markdown (toHtml toHtml_word IsWord)

theorem readWithin_eq_tooLarge_iff {limit : Nat} {html : String} {size max : Nat} :
    readWithin limit html = .error (.tooLarge size max) ↔
      max = limit ∧ size = html.utf8ByteSize ∧ limit < size := by
  unfold readWithin
  split
  next hlarge =>
    simp only [Except.error.injEq, Refusal.tooLarge.injEq]
    constructor
    · rintro ⟨rfl, rfl⟩
      exact ⟨rfl, rfl, hlarge⟩
    · rintro ⟨rfl, rfl, -⟩
      exact ⟨rfl, rfl⟩
  next hsmall =>
    constructor
    · cases Html.read? html <;> simp
    · rintro ⟨-, rfl, hlarge⟩
      exact absurd hlarge hsmall

namespace Renderer

variable {r : Renderer} {size max : Nat}

theorem renderHtml_eq_tooLarge_iff {html : String} :
    r.renderHtml html = .error (.tooLarge size max) ↔
      max = r.policy.maxInputLength ∧ size = html.utf8ByteSize ∧
        r.policy.maxInputLength < size := by
  rw [← readWithin_eq_tooLarge_iff, renderHtml, Sanitizer.sanitize]
  show ((readWithin r.policy.maxInputLength html).map _).map _ = _ ↔ _
  cases readWithin r.policy.maxInputLength html <;> simp [Except.map]

theorem renderMarkdown_of_le {text : String} (h : text.utf8ByteSize ≤ r.policy.maxInputLength) :
    r.renderMarkdown text = r.renderHtml (toHtml r.markdown text) := by
  rw [renderMarkdown, convert, if_neg (Nat.not_lt.2 h)]
  rfl

theorem renderMarkdown_of_lt {text : String} (h : r.policy.maxInputLength < text.utf8ByteSize) :
    r.renderMarkdown text = .error (.tooLarge text.utf8ByteSize r.policy.maxInputLength) := by
  rw [renderMarkdown, convert, if_pos h]
  rfl

def wordOf (length : Nat) : String :=
  String.ofList (List.replicate length 'x')

theorem utf8ByteSize_wordOf (length : Nat) : (wordOf length).utf8ByteSize = length := by
  induction length with
  | zero => rfl
  | succ length ih =>
      have hone : (String.singleton 'x').utf8ByteSize = 1 := by decide
      rw [wordOf, List.replicate_succ, String.ofList_cons, String.utf8ByteSize_append, hone]
      exact (congrArg (1 + ·) ih).trans (Nat.add_comm 1 length)

/-- The tags of a paragraph and the line end behind it take eight bytes. -/
theorem utf8ByteSize_toHtml_wordOf (o : Markdown.Options) {length : Nat} (h : 0 < length) :
    (toHtml o (wordOf length)).utf8ByteSize = length + 8 := by
  have hword : IsWord (List.replicate length 'x') := by
    refine ⟨by simp [Nat.ne_of_gt h], ?_⟩
    intro c hc
    rw [List.eq_of_mem_replicate hc]
    rfl
  have hopening : "<p>".utf8ByteSize = 3 := by decide
  have hending : "</p>\n".utf8ByteSize = 5 := by decide
  rw [wordOf, toHtml_word o hword, String.utf8ByteSize_append, String.utf8ByteSize_append,
    hopening, hending]
  show 3 + (wordOf length).utf8ByteSize + 5 = _
  rw [utf8ByteSize_wordOf]
  omega

theorem renderMarkdown_wordOf {length : Nat} (hpos : 0 < length)
    (hwithin : length ≤ r.policy.maxInputLength) (hlarge : r.policy.maxInputLength < length + 8) :
    r.renderMarkdown (wordOf length) =
      .error (.tooLarge (length + 8) r.policy.maxInputLength) := by
  have hsize := utf8ByteSize_toHtml_wordOf r.markdown hpos
  rw [renderMarkdown_of_le (by rwa [utf8ByteSize_wordOf]), renderHtml_eq_tooLarge_iff, hsize]
  exact ⟨rfl, rfl, hlarge⟩

/-- A limit that is neither zero nor the bound of all sizes admits a word whose paragraph is larger
than the limit and within the bound: its letters fall short of the limit by seven, or it is a single
letter. -/
theorem exists_wordOf_refused {bound : Nat} (hbound : 9 ≤ bound)
    (hpos : 0 < r.policy.maxInputLength) (hlimit : r.policy.maxInputLength < bound) :
    ∃ length, 0 < length ∧ length ≤ r.policy.maxInputLength ∧ length + 8 ≤ bound ∧
      r.policy.maxInputLength < length + 8 := by
  by_cases hsmall : r.policy.maxInputLength < 8
  · exact ⟨1, Nat.one_pos, hpos, hbound, by omega⟩
  · exact ⟨r.policy.maxInputLength - 7, by omega, by omega, by omega, by omega⟩

/-- The empty README is the only one that a limit of zero admits, and its HTML is empty, too. -/
theorem renderMarkdown_of_zero (h : r.policy.maxInputLength = 0) {text : String}
    (htext : text.utf8ByteSize ≤ r.policy.maxInputLength) :
    r.renderMarkdown text ≠ .error (.tooLarge size max) := by
  have hempty : text = "" := by
    rw [← String.utf8ByteSize_eq_zero_iff]
    omega
  have hhtml : (toHtml r.markdown "").utf8ByteSize = 0 := rfl
  rw [renderMarkdown_of_le htext, hempty, Ne, renderHtml_eq_tooLarge_iff, hhtml]
  omega

/-- **The size of a README and of its HTML are both limited.** A README is refused for its size
exactly if it is too large itself or becomes HTML that is, and the size that is reported is that of
the README in the first case and that of the HTML in the second. Where no text can be larger than
`bound`, the limits that refuse no README within them are zero and those from `bound` on. -/
theorem renderMarkdown_eq_tooLarge_iff (r : Renderer) :
    (∀ text size max, r.renderMarkdown text = .error (.tooLarge size max) ↔
        max = r.policy.maxInputLength ∧ max < size ∧
          (size = text.utf8ByteSize ∨
            text.utf8ByteSize ≤ max ∧ size = (toHtml r.markdown text).utf8ByteSize)) ∧
      ∀ bound, 9 ≤ bound →
        ((∀ text, text.utf8ByteSize ≤ bound → (toHtml r.markdown text).utf8ByteSize ≤ bound →
            text.utf8ByteSize ≤ r.policy.maxInputLength →
            ∀ size max, r.renderMarkdown text ≠ .error (.tooLarge size max)) ↔
          r.policy.maxInputLength = 0 ∨ bound ≤ r.policy.maxInputLength) := by
  constructor
  · intro text size max
    by_cases hsize : text.utf8ByteSize ≤ r.policy.maxInputLength
    · rw [renderMarkdown_of_le hsize, renderHtml_eq_tooLarge_iff]
      constructor
      · rintro ⟨rfl, rfl, hlarge⟩
        exact ⟨rfl, hlarge, .inr ⟨hsize, rfl⟩⟩
      · rintro ⟨rfl, hlarge, rfl | ⟨-, rfl⟩⟩
        · exact absurd hsize (Nat.not_le.2 hlarge)
        · exact ⟨rfl, rfl, hlarge⟩
    · have hlarge := Nat.lt_of_not_le hsize
      rw [renderMarkdown_of_lt hlarge, Except.error.injEq, Refusal.tooLarge.injEq]
      constructor
      · rintro ⟨rfl, rfl⟩
        exact ⟨rfl, hlarge, .inl rfl⟩
      · rintro ⟨rfl, -, rfl | ⟨hsmall, -⟩⟩
        · exact ⟨rfl, rfl⟩
        · exact absurd hsmall hsize
  · intro bound hbound
    constructor
    · intro hnever
      by_contra! hlimit
      obtain ⟨length, hpos, hwithin, hfits, hlarge⟩ :=
        exists_wordOf_refused hbound (Nat.pos_of_ne_zero hlimit.1) hlimit.2
      refine hnever (wordOf length) ?_ ?_ ?_ _ _ (renderMarkdown_wordOf hpos hwithin hlarge)
      · rw [utf8ByteSize_wordOf]
        omega
      · rwa [utf8ByteSize_toHtml_wordOf r.markdown hpos]
      · rwa [utf8ByteSize_wordOf]
    · rintro (hzero | hlimit) text - hhtml htext size max
      · exact renderMarkdown_of_zero hzero htext
      · rw [renderMarkdown_of_le htext, Ne, renderHtml_eq_tooLarge_iff]
        omega

/-- Texts of a 64-bit machine take at most `9223372036854775807` bytes. The default limit refuses a
README that is within it, and the largest limit refuses none. -/
theorem renderMarkdown_tooLarge_of_machine :
    let usual : Renderer := { policy := Policy.packagist }
    let lenient : Renderer :=
      { policy := (Policy.packagist.toDraft.apply (.maxInputLength 18446744073709551615)).finish }
    (∃ text size max, text.utf8ByteSize ≤ usual.policy.maxInputLength ∧
        usual.renderMarkdown text = .error (.tooLarge size max)) ∧
      ∀ text, text.utf8ByteSize ≤ 9223372036854775807 →
        (toHtml lenient.markdown text).utf8ByteSize ≤ 9223372036854775807 →
        ∀ size max, lenient.renderMarkdown text ≠ .error (.tooLarge size max) := by
  intro usual lenient
  constructor
  · have husual := (renderMarkdown_eq_tooLarge_iff usual).2 9223372036854775807 (by decide)
    have hlimit : ¬(usual.policy.maxInputLength = 0 ∨
        9223372036854775807 ≤ usual.policy.maxInputLength) := by decide
    by_contra! hnever
    exact hlimit (husual.1 fun text _ _ htext size max => hnever text size max htext)
  · intro text htext hhtml
    have hlenient := (renderMarkdown_eq_tooLarge_iff lenient).2 9223372036854775807 (by decide)
    have hmax : lenient.policy.maxInputLength = 18446744073709551615 := rfl
    exact hlenient.2 (.inr (by decide)) text htext hhtml (by omega)

/-- A README of one byte is refused where one byte is allowed: as a paragraph it takes nine. -/
theorem not_renderMarkdown_tooLarge_letter :
    "x".utf8ByteSize ≤ 1 ∧
      Renderer.renderMarkdown
          { policy := (Policy.packagist.toDraft.apply (.maxInputLength 1)).finish } "x" =
        .error (.tooLarge 9 1) :=
  ⟨by decide, renderMarkdown_wordOf Nat.one_pos (Nat.le_refl 1) (by decide)⟩

end Renderer

end SafeReadme
