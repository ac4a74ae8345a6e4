import SafeReadme.Proofs.Repository.RawUrl
import SafeReadme.Proofs.Repository.Walk
import SafeReadme.Proofs.Url.Percent

/-!
# The segments of a joined path

The path that is joined to a raw root is put together from segments that are no dot segments, neither
as they are meant nor as they are encoded.
-/

namespace SafeReadme

open Url

/-! ## Segments -/

/-- A segment that names neither the directory it stands in nor the one above. -/
def IsOrdinary (segment : String) : Prop :=
  segment ≠ "." ∧ segment ≠ ".."

namespace Repository

theorem isSlash_encodeSegment (segment : String) :
    ∀ c ∈ (encodeSegment segment).toList, Address.isSlash c = false := by
  intro c hc
  simp only [Address.isSlash, Bool.or_eq_false_iff, beq_eq_false_iff_ne]
  constructor
  · rintro rfl
    exact not_mem_encode (by decide) (by decide) (by decide) segment hc
  · rintro rfl
    exact not_mem_encode (by decide) (by decide) (by decide) segment hc

theorem encodeSegment_ne_suffix (segment : String) :
    ∀ c ∈ (encodeSegment segment).toList, c ≠ '?' ∧ c ≠ '#' := by
  intro c hc
  constructor
  · rintro rfl
    exact not_mem_encode (by decide) (by decide) (by decide) segment hc
  · rintro rfl
    exact not_mem_encode (by decide) (by decide) (by decide) segment hc

theorem encodeSegment_ordinary {segment : String} (h : IsOrdinary segment) :
    Address.isSingleDot (encodeSegment segment).toList = false ∧
      Address.isDoubleDot (encodeSegment segment).toList = false :=
  ⟨isSingleDot_encode (by decide) (by decide) h.1, isDoubleDot_encode (by decide) (by decide) h.2⟩

/-! ## Places -/

theorem walk_ordinary {base : List String} {path : String} {place : Place}
    (h : walk base path = .ok place) (hbase : ∀ s ∈ base, IsOrdinary s) :
    ∀ s ∈ place.segments, IsOrdinary s := by
  intro s hs
  rcases mem_walk h s hs with hs | ⟨hentry, -⟩
  · exact hbase s hs
  · exact hentry.2

/-- A place is printed segment by segment. The root is written as one empty segment. -/
theorem Place.print_close (place : Place) :
    place.close.print = Text.joinWith "/" (place.written.map encodeSegment) := by
  have hempty : encodeSegment "" = "" := by decide
  obtain ⟨segments, isDirectory⟩ := place
  cases isDirectory with
  | false => simp [close, print, written]
  | true =>
      by_cases hnil : segments = []
      · subst hnil
        simp [close, print, written, hempty, Text.joinWith]
      · have hmap : segments.map encodeSegment ≠ [] := by simpa using hnil
        have hprint : (Place.mk segments true).close.print =
            Text.joinWith "/" (segments.map encodeSegment) ++ "/" := by
          simp [close, print, hnil]
        rw [hprint, written, if_pos rfl, List.map_append, Text.joinWith, Text.joinWith,
          String.intercalate_append_of_ne_nil hmap (by simp), List.map_singleton, hempty,
          String.intercalate_singleton, String.append_empty]

/-- What a place is printed as, behind a slash: at least one segment, all of them ordinary. -/
theorem exists_print {base : List String} {path joined : String}
    (h : join base path = .ok joined) (hbase : ∀ s ∈ base, IsOrdinary s) :
    ∃ inside, inside ≠ [] ∧ (∀ s ∈ inside, IsOrdinary s) ∧
      joined = Text.joinWith "/" (inside.map encodeSegment) := by
  rw [join] at h
  cases hwalk : walk base path with
  | error rejection =>
      rw [hwalk] at h
      cases h
  | ok place =>
      rw [hwalk] at h
      obtain rfl := Except.ok.inj h
      obtain ⟨segments, last, hsegments, hlast, rfl⟩ := exists_last_of_walk hwalk
      have hwritten : last.written ≠ [] :=
        written_ne_nil_of_foldlM (segmentsOf_ne_nil hsegments) hlast
      refine ⟨last.written, hwritten, fun s hs => ?_, last.print_close⟩
      rcases Place.mem_written hs with hs | rfl
      · exact walk_ordinary hwalk hbase s hs
      · exact ⟨by decide, by decide⟩

end Repository

namespace Coordinate

/-! ## Names -/

theorem toNat_of_isNameChar {c : Char} (h : isNameChar c = true) :
    0x2D ≤ c.toNat ∧ c.toNat ≤ 0x7A := by
  unfold isNameChar Char.isAlphanum Char.isAlpha at h
  simp only [Bool.or_eq_true, beq_iff_eq, Text.isUpper_iff, Text.isLower_iff, Text.isDigit_iff] at h
  rcases h with ((((h | h) | h) | rfl) | rfl) | rfl
  · omega
  · omega
  · omega
  · decide
  · decide
  · decide

theorem not_mustEscape_of_isNameChar {specials : List Char}
    (hspecials : specials.all (fun c => !isNameChar c) = true) {c : Char} (h : isNameChar c = true) :
    c.toNat < 0x80 ∧ Address.mustEscape specials c = false := by
  have hcode := toNat_of_isNameChar h
  have hspecial : specials.contains c = false := by
    by_contra hmem
    have hnot := List.all_eq_true.1 hspecials c (by simpa using hmem)
    simp [h] at hnot
  refine ⟨by omega, ?_⟩
  simp only [Address.mustEscape, hspecial, Bool.or_false, Bool.or_eq_false_iff,
    decide_eq_false_iff_not, beq_eq_false_iff_ne]
  omega

theorem mem_isNameChar {segment : String} (h : isName segment = true) :
    ∀ c ∈ segment.toList, isNameChar c = true := by
  simp only [isName, Bool.and_eq_true, List.all_eq_true] at h
  exact h.2

theorem encodeSegment_name {segment : String} (h : isName segment = true) :
    Repository.encodeSegment segment = segment :=
  encode_eq_self fun c hc =>
    not_mustEscape_of_isNameChar (by decide) (mem_isNameChar h c hc)

theorem escapeSegment_name {segment : String} (h : isName segment = true) :
    Address.escapeSegment segment.toList = segment := by
  rw [Address.escapeSegment, String.ofList_toList]
  exact encode_eq_self fun c hc =>
    not_mustEscape_of_isNameChar (by decide) (mem_isNameChar h c hc)

theorem isOrdinary_name {segment : String} (h : isName segment = true) : IsOrdinary segment := by
  simp only [isName, Bool.and_eq_true, bne_iff_ne] at h
  exact ⟨h.1.1.2, h.1.2⟩

end Coordinate

end SafeReadme
