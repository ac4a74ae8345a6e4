import Mathlib.Data.List.Basic
import Mathlib.Data.List.TakeWhile
import SafeReadme.Markdown.Write
import SafeReadme.Proofs.Text.Letters

/-!
# Documents of one word

A document that is a word of letters is a paragraph of that word, whatever extensions are read: no
letter starts a block of another kind, and none is a mark inside a paragraph.
-/

namespace SafeReadme.Markdown

def IsWord (cs : List Char) : Prop :=
  cs ≠ [] ∧ ∀ c ∈ cs, c.isAlpha = true

theorem not_mem_of_isAlpha {c : Char} (hc : c.isAlpha = true) {marks : List Char}
    (hmarks : marks.all (fun d => !d.isAlpha) = true) : c ∉ marks := by
  intro hmem
  have hletter := List.all_eq_true.1 hmarks c hmem
  simp [hc] at hletter

/-! ## Lines -/

theorem isWhite_letter {c : Char} (hc : c.isAlpha = true) : isWhite c = false := by
  have hgaps : c ∉ [' ', '\t', '\x0b', '\x0c', '\n', '\r'] := not_mem_of_isAlpha hc (by decide)
  simp only [List.mem_cons, not_or] at hgaps
  simp [isWhite, isGap, hgaps]

theorem isGap_letter {c : Char} (hc : c.isAlpha = true) : isGap c = false := by
  have hwhite := isWhite_letter hc
  simp only [isWhite, Bool.or_eq_false_iff] at hwhite
  exact hwhite.1.1

theorem linesFrom_letters {cs : List Char} (h : ∀ c ∈ cs, c.isAlpha = true) (done : List Char) :
    linesFrom done cs = linesFrom (cs.reverse ++ done) [] := by
  induction cs generalizing done with
  | nil => rfl
  | cons c cs ih =>
      have hwhite := isWhite_letter (h c (by simp))
      have hstep : linesFrom done (c :: cs) = linesFrom (c :: done) cs := by
        rw [linesFrom]
        · simp_all [isWhite]
        · rintro rest rfl
          cases hwhite
      rw [hstep, ih fun d hd => h d (by simp [hd])]
      simp

theorem lines_word {cs : List Char} (h : IsWord cs) : lines cs = [⟨cs, []⟩] := by
  rw [lines, linesFrom_letters h.2, linesFrom]
  simp [h.1]

/-! ## Blocks -/

section Start

variable {c : Char} {cs : List Char} (hc : c.isAlpha = true)

include hc

theorem skipUpTo_letter (count : Nat) :
    (Cursor.start (c :: cs)).skipUpTo (count + 1) = (0, .start (c :: cs)) := by
  have hmarks : c ∉ [' ', '\t'] := not_mem_of_isAlpha hc (by decide)
  simp only [List.mem_cons, not_or] at hmarks
  simp [Cursor.skipUpTo, Cursor.skip, Cursor.start, Cursor.skipColumns, hmarks]

theorem isBlankRest_letter : isBlankRest (c :: cs) = false := by
  simp [isBlankRest, isGap_letter hc]

theorem itemStart?_letter (outer : Nat) :
    Outline.itemStart? outer (.start (c :: cs)) = none := by
  have hmarks : c ∉ ['-', '+', '*'] := not_mem_of_isAlpha hc (by decide)
  simp only [List.mem_cons, not_or] at hmarks
  have hdigit : c.isDigit = false := by
    rw [← Bool.not_eq_true, Text.isDigit_iff]
    unfold Char.isAlpha at hc
    rw [Bool.or_eq_true, Text.isUpper_iff, Text.isLower_iff] at hc
    omega
  have hmarker : listMarker? (c :: cs) = none := by
    simp [listMarker?, hmarks, hdigit]
  simp [Outline.itemStart?, Cursor.start, hmarker]

theorem openAll_letter (o : Options) (count : Nat) (d : Outline) :
    d.openAll o (count + 1) (.start (c :: cs)) = (d, .block (.start (c :: cs))) := by
  have hmarks : c ∉ ['>', '['] := not_mem_of_isAlpha hc (by decide)
  simp only [List.mem_cons, not_or] at hmarks
  have hrest : (Cursor.start (c :: cs)).rest = c :: cs := rfl
  have hnote : footnoteStart? (c :: cs) = none := by
    simp [footnoteStart?, hmarks]
  simp [Outline.openAll, skipUpTo_letter hc, itemStart?_letter hc, hrest, hnote, hmarks]

theorem readBlock_letter (o : Options) (d : Outline) (line : Line) (rest : List Line) :
    d.readBlock o (.start (c :: cs)) line rest =
      let taskless := { d.endList with task := none }
      let (block, behind) :=
        readParagraph o taskless.containers d.endList.task ⟨c :: cs, line.ending⟩ rest
      (taskless.add block, behind) := by
  have hmarks : c ∉ ['<', '#', '[', '*', '-', '_', '\x60', '~'] := not_mem_of_isAlpha hc (by decide)
  simp only [List.mem_cons, not_or] at hmarks
  have hrest : (Cursor.start (c :: cs)).rest = c :: cs := rfl
  have hdivider : isDivider (c :: cs) = false := by simp [isDivider, hmarks]
  have hheading : headingLevel? (c :: cs) = none := by simp [headingLevel?, hmarks]
  have hfence : fence? (c :: cs) = none := by simp [fence?, hmarks]
  simp [Outline.readBlock, skipUpTo_letter hc, hrest, hdivider, hheading, hfence,
    readDefinitions, hmarks]

end Start

theorem trimGapEnd_word {cs : List Char} (h : IsWord cs) : trimGapEnd cs = cs := by
  have hlast : cs.reverse.dropWhile isGap = cs.reverse := by
    rw [List.dropWhile_eq_self_iff]
    intro hlength
    rw [isGap_letter (h.2 _ (List.mem_reverse.1 (List.getElem_mem hlength)))]
    exact Bool.false_ne_true
  rw [trimGapEnd, hlast, List.reverse_reverse]

/-- A word is a paragraph, and nothing else. -/
theorem read_word (o : Options) {cs : List Char} (h : IsWord cs) :
    Outline.read o (String.ofList cs) =
      { Outline.empty with frames := [⟨.document, [.paragraph none cs]⟩] } := by
  obtain ⟨c, cs, rfl⟩ := List.exists_cons_of_ne_nil h.1
  have hc := h.2 c (by simp)
  have htable : tableUnder? o [.document] (c :: cs) [] = none := by simp [tableUnder?]
  have hparagraph : readParagraph o [.document] none ⟨c :: cs, []⟩ [] =
      (.paragraph none (c :: cs), []) := by
    simp [readParagraph, htable, readText, trimGapEnd_word h]
  have hblock : Outline.empty.readBlock o (.start (c :: cs)) ⟨c :: cs, []⟩ [] =
      ({ Outline.empty with frames := [⟨.document, [.paragraph none (c :: cs)]⟩] }, []) := by
    have hcontainers : { Outline.empty.endList with task := none }.containers = [.document] := rfl
    have htask : Outline.empty.endList.task = none := rfl
    rw [readBlock_letter hc]
    simp only [hcontainers, htask, hparagraph]
    rfl
  have hline : Outline.empty.readLine o ⟨c :: cs, []⟩ [] =
      ({ Outline.empty with frames := [⟨.document, [.paragraph none (c :: cs)]⟩] }, []) := by
    have hinside : continueAll Outline.empty.containers (.start (c :: cs)) =
        (1, .start (c :: cs)) := rfl
    have hrest : (Cursor.start (c :: cs)).rest = c :: cs := rfl
    have hclosed : Outline.closeMany (Outline.empty.frames.length - 1) Outline.empty =
        Outline.empty := rfl
    simp only [Outline.readLine, hinside, hclosed, openAll_letter hc, hrest,
      isBlankRest_letter hc, hblock]
    rfl
  rw [Outline.read, String.toList_ofList, lines_word h]
  simp only [List.length_singleton, Outline.readLines, hline]
  rfl

/-! ## Inline content -/

theorem step_letter (refs : References) {c : Char} (hc : c.isAlpha = true) (r : Reading)
    (cs : List Char) : refs.step r c cs = (r.push c, 0) := by
  have hmarks : c ∉ ['\\', '\x60', '<', '&', '*', '_', '~', '!', '[', ']', '\n', '\r'] :=
    not_mem_of_isAlpha hc (by decide)
  simp only [List.mem_cons, not_or] at hmarks
  simp [References.step, hmarks]

theorem readFrom_letters (refs : References) {cs : List Char} (h : ∀ c ∈ cs, c.isAlpha = true)
    (r : Reading) : ∃ previous, refs.readFrom r 0 cs =
      { r with pending := cs.reverse ++ r.pending, previous } := by
  induction cs generalizing r with
  | nil => exact ⟨r.previous, rfl⟩
  | cons c cs ih =>
      obtain ⟨previous, hrest⟩ :=
        ih (fun d hd => h d (by simp [hd])) ⟨r.brackets, r.pieces, c :: r.pending, c⟩
      refine ⟨previous, ?_⟩
      rw [References.readFrom, step_letter refs (h c (by simp))]
      refine Eq.trans hrest ?_
      simp

theorem references_read_word (refs : References) {cs : List Char} (h : IsWord cs) :
    refs.read cs = [.text (String.ofList cs)] := by
  obtain ⟨previous, hread⟩ := readFrom_letters refs h.2 ⟨[], [], [], ' '⟩
  rw [References.read, hread]
  simp [Reading.finish, Reading.flush, h.1, Reading.flattenOuter, resolveStress, Resolution.take,
    Resolution.giveUpAll]

/-! ## HTML -/

theorem escapeText_word {cs : List Char} (h : IsWord cs) :
    Html.escapeText (String.ofList cs) = String.ofList cs := by
  have hchar : ∀ c ∈ cs, Html.textChar c = [c] := by
    intro c hc
    have hmarks : c ∉ ['<', '>', '&'] := not_mem_of_isAlpha (h.2 c hc) (by decide)
    simp only [List.mem_cons, not_or] at hmarks
    simp [Html.textChar, hmarks]
  rw [Html.escapeText, String.toList_ofList, List.flatMap_congr hchar, List.flatMap_singleton']

theorem toHtml_word (o : Options) {cs : List Char} (h : IsWord cs) :
    toHtml o (String.ofList cs) = "<p>" ++ String.ofList cs ++ "</p>\n" := by
  rw [toHtml, read_word o h]
  simp [Outline.blocks, Outline.empty, writeBlocks, Block.write, References.write,
    references_read_word _ h, writeInlines, Inline.write, escapeText_word h, Output.putTask,
    Output.put, Output.newline, Output.empty]

end SafeReadme.Markdown
