import Mathlib.Data.List.Basic
import SafeReadme.Proofs.Text.Letters
import SafeReadme.Url.Address

/-!
# Percent-encoded segments

An encoded text is a sequence of codes, one for each character. A dot is never escaped and a percent
sign always is, so an encoded text is read as a dot segment only if it is the encoding of one.
-/

namespace SafeReadme.Url

def code (mustEscape : Char → Bool) (c : Char) : List Char :=
  if c.toNat < 0x80 && !mustEscape c then [c] else escapeChar c

theorem toList_encode (mustEscape : Char → Bool) (s : String) :
    (encode mustEscape s).toList = s.toList.flatMap (code mustEscape) := by
  rw [encode, String.toList_ofList]
  rfl

theorem encode_eq_self {mustEscape : Char → Bool} {s : String}
    (h : ∀ c ∈ s.toList, c.toNat < 0x80 ∧ mustEscape c = false) : encode mustEscape s = s := by
  have hcode : ∀ c ∈ s.toList, code mustEscape c = [c] := by
    intro c hc
    simp [code, h c hc]
  rw [← String.toList_inj, toList_encode, List.flatMap_congr hcode, List.flatMap_singleton']

/-! ## Escapes -/

/-- The first byte of a character is that of a dot only for the dot. -/
theorem exists_utf8EncodeChar (c : Char) :
    ∃ b more, String.utf8EncodeChar c = b :: more ∧ (b.toNat = 0x2E → c = '.') := by
  unfold String.utf8EncodeChar
  have hcode : c.val.toNat = c.toNat := rfl
  have hdot : '.'.toNat = 0x2E := rfl
  simp only [hcode]
  split
  next hsmall =>
    refine ⟨_, _, rfl, fun h => Char.toNat_inj.1 ?_⟩
    rw [UInt8.toNat_ofNat'] at h
    omega
  · -- The first byte of a longer code has its highest bit set.
    split
    · refine ⟨_, _, rfl, fun h => ?_⟩
      rw [UInt8.toNat_ofNat'] at h
      omega
    · split
      · refine ⟨_, _, rfl, fun h => ?_⟩
        rw [UInt8.toNat_ofNat'] at h
        omega
      · refine ⟨_, _, rfl, fun h => ?_⟩
        rw [UInt8.toNat_ofNat'] at h
        omega

theorem hexDigit_eq_two {n : Nat} (hn : n < 16) (h : (hexDigit n).toLower = '2') : n = 2 := by
  have hall : ∀ i : Fin 16, (hexDigit i).toLower = '2' → i = 2 := by decide
  exact congrArg Fin.val (hall ⟨n, hn⟩ h)

theorem hexDigit_eq_e {n : Nat} (hn : n < 16) (h : (hexDigit n).toLower = 'e') : n = 14 := by
  have hall : ∀ i : Fin 16, (hexDigit i).toLower = 'e' → i = 14 := by decide
  exact congrArg Fin.val (hall ⟨n, hn⟩ h)

theorem isAlphanum_hexDigit {n : Nat} (hn : n < 16) : (hexDigit n).isAlphanum = true := by
  have hall : ∀ i : Fin 16, (hexDigit i).isAlphanum = true := by decide
  exact hall ⟨n, hn⟩

/-- An escape starts with a percent sign, and only that of the dot goes on with `2e`. -/
theorem exists_escapeChar (c : Char) :
    ∃ first second more, escapeChar c = '%' :: first :: second :: more ∧
      (first.toLower = '2' → second.toLower = 'e' → c = '.') := by
  obtain ⟨b, bytes, hbytes, hdot⟩ := exists_utf8EncodeChar c
  have hlt : b.toNat < 256 := UInt8.toNat_lt b
  refine ⟨hexDigit (b.toNat / 16), hexDigit (b.toNat % 16), bytes.flatMap escapeByte, ?_, ?_⟩
  · rw [escapeChar, hbytes, List.flatMap_cons]
    rfl
  · intro hhigh hlow
    have hhigh := hexDigit_eq_two (by omega) hhigh
    have hlow := hexDigit_eq_e (by omega) hlow
    exact hdot (by omega)

theorem of_mem_escapeChar {c d : Char} (h : d ∈ escapeChar c) : d = '%' ∨ d.isAlphanum = true := by
  obtain ⟨b, -, hd⟩ := List.mem_flatMap.1 h
  have hlt : b.toNat < 256 := UInt8.toNat_lt b
  simp only [escapeByte, List.mem_cons, List.not_mem_nil, or_false] at hd
  rcases hd with rfl | rfl | rfl
  · exact .inl rfl
  · exact .inr (isAlphanum_hexDigit (by omega))
  · exact .inr (isAlphanum_hexDigit (by omega))

theorem not_mem_encode {mustEscape : Char → Bool} {d : Char} (hescaped : mustEscape d = true)
    (hpercent : d ≠ '%') (halphanum : d.isAlphanum = false) (s : String) :
    d ∉ (encode mustEscape s).toList := by
  rw [toList_encode, List.mem_flatMap]
  rintro ⟨c, -, hd⟩
  rw [code] at hd
  split at hd
  next hplain =>
    obtain rfl := List.mem_singleton.1 hd
    simp [hescaped] at hplain
  · rcases of_mem_escapeChar hd with hd | hd
    · exact hpercent hd
    · rw [halphanum] at hd
      cases hd

/-! ## Dot segments -/

theorem eq_nil_of_flatMap_code {mustEscape : Char → Bool} {cs : List Char}
    (h : cs.flatMap (code mustEscape) = []) :
    cs = [] := by
  cases cs with
  | nil => rfl
  | cons c cs =>
      rw [List.flatMap_cons, code] at h
      split at h
      · cases h
      · obtain ⟨first, second, more, hescape, -⟩ := exists_escapeChar c
        rw [hescape] at h
        cases h

def dots : List (List Char) :=
  [['.'], ['%', '2', 'e']]

section Dots

variable {mustEscape : Char → Bool} (hdot : mustEscape '.' = false)
  (hpercent : mustEscape '%' = true)

include hdot hpercent

/-- What is read as a dot at the start of encoded text is one. -/
theorem dot_of_flatMap_code {cs spelling rest : List Char}
    (h : cs.flatMap (code mustEscape) = spelling ++ rest)
    (hspelling : spelling.map Char.toLower ∈ dots) :
    ∃ more, cs = '.' :: more ∧ more.flatMap (code mustEscape) = rest := by
  simp only [dots, List.mem_cons, List.not_mem_nil, or_false, List.map_eq_cons_iff,
    List.map_eq_nil_iff] at hspelling
  cases cs with
  | nil =>
      rcases hspelling with ⟨d, _, rfl, -⟩ | ⟨d, _, rfl, -⟩ <;> cases h
  | cons c cs =>
      rw [List.flatMap_cons, code] at h
      split at h
      next hplain =>
        rcases hspelling with ⟨d, _, rfl, hd, rfl⟩ | ⟨d, _, rfl, hd, -⟩
        · obtain ⟨rfl, hrest⟩ := List.cons.inj h
          obtain rfl := Text.eq_of_toLower_eq hd (by decide)
          exact ⟨cs, rfl, hrest⟩
        · obtain ⟨rfl, -⟩ := List.cons.inj h
          obtain rfl := Text.eq_of_toLower_eq hd (by decide)
          simp [hpercent] at hplain
      next hescaped =>
        obtain ⟨first, second, more, hescape, hfirst⟩ := exists_escapeChar c
        rw [hescape] at h
        rcases hspelling with ⟨d, _, rfl, hd, rfl⟩ | ⟨d, _, rfl, -, d₂, _, rfl, hd₂, d₃, _, rfl, hd₃, rfl⟩
        · obtain ⟨rfl, -⟩ := List.cons.inj h
          exact absurd hd (by decide)
        · simp only [List.cons_append, List.cons.injEq] at h
          obtain ⟨-, rfl, rfl, -⟩ := h
          obtain rfl := hfirst hd₂ hd₃
          simp [hdot] at hescaped

theorem isSingleDot_encode {s : String} (h : s ≠ ".") :
    Address.isSingleDot (encode mustEscape s).toList = false := by
  by_contra hread
  have hspelling : (encode mustEscape s).toList.map Char.toLower ∈ dots := by
    simp only [Address.isSingleDot, Bool.not_eq_false, Bool.or_eq_true, beq_iff_eq] at hread
    rcases hread with hread | hread <;> rw [hread] <;> decide
  have hall : s.toList.flatMap (code mustEscape) = (encode mustEscape s).toList ++ [] := by
    rw [toList_encode, List.append_nil]
  obtain ⟨more, hs, hmore⟩ := dot_of_flatMap_code hdot hpercent hall hspelling
  rw [eq_nil_of_flatMap_code hmore] at hs
  exact h (String.toList_inj.1 hs)

theorem isDoubleDot_encode {s : String} (h : s ≠ "..") :
    Address.isDoubleDot (encode mustEscape s).toList = false := by
  by_contra hread
  rw [Bool.not_eq_false, Address.isDoubleDot, List.any_eq_true] at hread
  obtain ⟨a, ha, hread⟩ := hread
  obtain ⟨b, hb, heq⟩ := List.any_eq_true.1 hread
  rw [beq_iff_eq] at heq
  obtain ⟨first, second, hsplit, rfl, rfl⟩ := List.map_eq_append_iff.1 heq
  rw [toList_encode] at hsplit
  obtain ⟨more, hs, hmore⟩ := dot_of_flatMap_code hdot hpercent hsplit ha
  rw [← List.append_nil second] at hmore
  obtain ⟨more', rfl, hmore'⟩ := dot_of_flatMap_code hdot hpercent hmore hb
  rw [eq_nil_of_flatMap_code hmore'] at hs
  exact h (String.toList_inj.1 hs)

end Dots

end SafeReadme.Url
