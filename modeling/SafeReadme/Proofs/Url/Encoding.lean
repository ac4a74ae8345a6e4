import Mathlib.Data.List.Infix
import SafeReadme.Proofs.Url.Decoding
import SafeReadme.Proofs.Url.Percent
import SafeReadme.Text.Basic

/-!
# Decoding and encoding

Decoding a text that was encoded gives it back, and no percent sign of an encoded text stands alone.
A text that holds an escape is longer than what it stands for, so only texts without escapes stand
for themselves.
-/

namespace SafeReadme.Url

/-! ## Escapes in a text -/

def startsEscape : List Char → Bool
  | '%' :: high :: low :: _ => Text.isDigit 16 high && Text.isDigit 16 low
  | _ => false

/-- A percent sign and two hexadecimal digits stand somewhere in the text. -/
def HasEscape (s : String) : Prop :=
  ∃ cs, cs <:+ s.toList ∧ startsEscape cs = true

instance : DecidablePred HasEscape := fun s =>
  decidable_of_iff (∃ cs ∈ s.toList.tails, startsEscape cs = true)
    (by simp only [List.mem_tails, HasEscape])

theorem startsEscape_iff {cs : List Char} :
    startsEscape cs = true ↔ ∃ high low rest, cs = '%' :: high :: low :: rest ∧
      Text.isDigit 16 high = true ∧ Text.isDigit 16 low = true := by
  constructor
  · intro h
    unfold startsEscape at h
    split at h
    next high low rest =>
      rw [Bool.and_eq_true] at h
      exact ⟨high, low, rest, rfl, h⟩
    · cases h
  · rintro ⟨high, low, rest, rfl, hhigh, hlow⟩
    rw [startsEscape, hhigh, hlow]
    rfl

/-! ## Digits as bytes -/

theorem utf8EncodeChar_ascii {c : Char} (h : c.toNat < 0x80) :
    String.utf8EncodeChar c = [UInt8.ofNat c.toNat] := by
  unfold String.utf8EncodeChar
  have hcode : c.val.toNat = c.toNat := rfl
  simp only [hcode]
  rw [if_pos (by omega)]

theorem toNat_lt_of_isDigit {c : Char} (h : Text.isDigit 16 c = true) : c.toNat < 0x80 := by
  have hle : ∀ d : Char, c ≤ d → c.toNat ≤ d.toNat := fun d hd => hd
  unfold Text.isDigit Text.digit? at h
  split at h
  next hdigit =>
    have hrange := Text.isDigit_iff.1 hdigit
    omega
  · split at h
    next hlower =>
      simp only [Bool.and_eq_true, decide_eq_true_eq] at hlower
      have hlast := hle 'f' hlower.2
      have hcode : 'f'.toNat = 0x66 := rfl
      omega
    · split at h
      next hupper =>
        simp only [Bool.and_eq_true, decide_eq_true_eq] at hupper
        have hlast := hle 'F' hupper.2
        have hcode : 'F'.toNat = 0x46 := rfl
        omega
      · cases h

theorem isSome_hexValue? {c : Char} (h : c.toNat < 0x80) :
    (hexValue? (UInt8.ofNat c.toNat)).isSome = Text.isDigit 16 c := by
  have hall : ∀ i : Fin 0x80,
      (hexValue? (UInt8.ofNat i)).isSome = Text.isDigit 16 (Char.ofNat i) := by decide
  have hc := hall ⟨c.toNat, h⟩
  rwa [Char.ofNat_toNat] at hc

theorem hexValue?_hexDigit {n : Nat} (h : n < 16) :
    hexValue? (UInt8.ofNat (hexDigit n).toNat) = some (UInt8.ofNat n) := by
  have hall : ∀ i : Fin 16,
      hexValue? (UInt8.ofNat (hexDigit i).toNat) = some (UInt8.ofNat i) := by decide
  exact hall ⟨n, h⟩

theorem isDigit_hexDigit {n : Nat} (h : n < 16) : Text.isDigit 16 (hexDigit n) = true := by
  have hall : ∀ i : Fin 16, Text.isDigit 16 (hexDigit i) = true := by decide
  exact hall ⟨n, h⟩

theorem toNat_lt_of_hexValue? {b value : UInt8} (h : hexValue? b = some value) :
    b.toNat < 0x80 := by
  have hdigit : (0x39 : UInt8).toNat = 0x39 := rfl
  have hupper : (0x46 : UInt8).toNat = 0x46 := rfl
  have hlower : (0x66 : UInt8).toNat = 0x66 := rfl
  simp only [hexValue?, Bool.and_eq_true, decide_eq_true_eq, UInt8.le_iff_toNat_le] at h
  split at h
  · omega
  · split at h
    · omega
    · split at h
      · omega
      · cases h

/-! ## Decoding undoes encoding -/

theorem decodeBytes_append_of_not_mem {front : List UInt8} (h : 0x25 ∉ front) (rest : List UInt8) :
    decodeBytes (front ++ rest) = front ++ decodeBytes rest := by
  induction front with
  | nil => rfl
  | cons b front ih =>
      have hb : ¬StartsEscape (b :: (front ++ rest)) := by
        rintro ⟨_, _, _, _, _, heq, -⟩
        exact h (by simp [(List.cons.inj heq).1])
      rw [List.cons_append, decodeBytes_keep hb, ih fun hmem => h (List.mem_cons_of_mem _ hmem),
        List.cons_append]

theorem percent_not_mem_utf8EncodeChar {c : Char} (h : c ≠ '%') :
    (0x25 : UInt8) ∉ String.utf8EncodeChar c := fun hmem =>
  h (Char.toNat_inj.1 (toNat_of_mem_utf8EncodeChar hmem (by decide)))

theorem decodeBytes_escapeByte (b : UInt8) (rest : List UInt8) :
    decodeBytes ((escapeByte b).flatMap String.utf8EncodeChar ++ rest) = b :: decodeBytes rest := by
  have hlt : b.toNat < 256 := UInt8.toNat_lt b
  have hhigh : b.toNat / 16 < 16 := by omega
  have hlow : b.toNat % 16 < 16 := by omega
  have hbytes : (escapeByte b).flatMap String.utf8EncodeChar =
      [0x25, UInt8.ofNat (hexDigit (b.toNat / 16)).toNat,
        UInt8.ofNat (hexDigit (b.toNat % 16)).toNat] := by
    rw [escapeByte, List.flatMap_cons, List.flatMap_cons, List.flatMap_singleton,
      utf8EncodeChar_ascii (toNat_lt_of_isDigit (isDigit_hexDigit hhigh)),
      utf8EncodeChar_ascii (toNat_lt_of_isDigit (isDigit_hexDigit hlow)),
      utf8EncodeChar_ascii (by decide)]
    rfl
  have hvalue : UInt8.ofNat (b.toNat / 16) * 16 + UInt8.ofNat (b.toNat % 16) = b := by
    rw [← UInt8.toNat_inj, UInt8.toNat_add, UInt8.toNat_mul, UInt8.toNat_ofNat',
      UInt8.toNat_ofNat']
    have hsixteen : (16 : UInt8).toNat = 16 := rfl
    rw [hsixteen]
    omega
  rw [hbytes, List.cons_append, List.cons_append, List.cons_append, List.nil_append,
    decodeBytes_escape (hexValue?_hexDigit hhigh) (hexValue?_hexDigit hlow), hvalue]

theorem decodeBytes_escapeBytes (bytes rest : List UInt8) :
    decodeBytes ((bytes.flatMap escapeByte).flatMap String.utf8EncodeChar ++ rest) =
      bytes ++ decodeBytes rest := by
  induction bytes with
  | nil => rfl
  | cons b bytes ih =>
      rw [List.flatMap_cons, List.flatMap_append, List.append_assoc, decodeBytes_escapeByte, ih,
        List.cons_append]

section

variable {mustEscape : Char → Bool} (hpercent : mustEscape '%' = true)

include hpercent

theorem decodeBytes_code (c : Char) (rest : List UInt8) :
    decodeBytes ((code mustEscape c).flatMap String.utf8EncodeChar ++ rest) =
      String.utf8EncodeChar c ++ decodeBytes rest := by
  rw [code]
  split
  next hplain =>
    have hc : c ≠ '%' := by
      rintro rfl
      simp [hpercent] at hplain
    rw [List.flatMap_singleton,
      decodeBytes_append_of_not_mem (percent_not_mem_utf8EncodeChar hc)]
  · exact decodeBytes_escapeBytes _ rest

/-- **An encoded text stands for the text that was encoded.** -/
theorem decodes_encode (s : String) : Decodes (encode mustEscape s) s := by
  have hcodes : ∀ cs : List Char,
      decodeBytes ((cs.flatMap (code mustEscape)).flatMap String.utf8EncodeChar) =
        cs.flatMap String.utf8EncodeChar := by
    intro cs
    induction cs with
    | nil => rfl
    | cons c cs ih =>
        rw [List.flatMap_cons, List.flatMap_append, decodeBytes_code hpercent, ih,
          List.flatMap_cons]
  rw [Decodes, bytesOf_eq_flatMap, bytesOf_eq_flatMap, toList_encode, hcodes]

end

/-! ## Encoded text -/

/-- Every percent sign starts an escape. -/
def EscapesAll (cs : List Char) : Prop :=
  ∀ rest, '%' :: rest <:+ cs → startsEscape ('%' :: rest) = true

theorem escapesAll_nil : EscapesAll [] := by
  intro rest h
  simp at h

theorem EscapesAll.cons {c : Char} {cs : List Char} (hc : c ≠ '%') (h : EscapesAll cs) :
    EscapesAll (c :: cs) := by
  intro rest hrest
  rcases List.suffix_cons_iff.1 hrest with heq | hrest
  · exact absurd (List.cons.inj heq).1.symm hc
  · exact h rest hrest

theorem EscapesAll.append {front back : List Char} (hfront : EscapesAll front)
    (hback : EscapesAll back) : EscapesAll (front ++ back) := by
  induction front with
  | nil => exact hback
  | cons c front ih =>
      intro rest hrest
      rcases List.suffix_cons_iff.1 hrest with heq | hrest
      · -- An escape that ends in front of the joint stays one.
        obtain ⟨rfl, -⟩ := List.cons.inj heq
        obtain ⟨high, low, more, hwhole, hdigits⟩ :=
          startsEscape_iff.1 (hfront front List.suffix_rfl)
        exact startsEscape_iff.2
          ⟨high, low, more ++ back, heq.trans (congrArg (· ++ back) hwhole), hdigits⟩
      · exact ih (fun more hmore => hfront more (hmore.trans (List.suffix_cons c front))) rest hrest

theorem EscapesAll.escapeByte (b : UInt8) {cs : List Char} (h : EscapesAll cs) :
    EscapesAll (escapeByte b ++ cs) := by
  have hlt : b.toNat < 256 := UInt8.toNat_lt b
  have hhigh := isDigit_hexDigit (n := b.toNat / 16) (by omega)
  have hlow := isDigit_hexDigit (n := b.toNat % 16) (by omega)
  have hne : ∀ {c : Char}, Text.isDigit 16 c = true → c ≠ '%' := by
    rintro c hc rfl
    exact absurd hc (by decide)
  intro rest hrest
  rcases List.suffix_cons_iff.1 hrest with heq | hrest
  · rw [heq]
    exact startsEscape_iff.2 ⟨_, _, cs, rfl, hhigh, hlow⟩
  · exact (h.cons (hne hlow)).cons (hne hhigh) rest hrest

/-- **No percent sign of an encoded text stands alone.** -/
theorem escapesAll_encode {mustEscape : Char → Bool} (hpercent : mustEscape '%' = true)
    (s : String) : EscapesAll (encode mustEscape s).toList := by
  have hbytes : ∀ (bytes : List UInt8) {cs : List Char}, EscapesAll cs →
      EscapesAll (bytes.flatMap escapeByte ++ cs) := by
    intro bytes cs h
    induction bytes with
    | nil => exact h
    | cons b bytes ih =>
        rw [List.flatMap_cons, List.append_assoc]
        exact ih.escapeByte b
  rw [toList_encode]
  induction s.toList with
  | nil => exact escapesAll_nil
  | cons c cs ih =>
      rw [List.flatMap_cons, code]
      split
      next hplain =>
        refine ih.cons ?_
        rintro rfl
        simp [hpercent] at hplain
      · exact hbytes _ ih

theorem mem_encode {mustEscape : Char → Bool} {s : String} {d : Char}
    (h : d ∈ (encode mustEscape s).toList) :
    (d.toNat < 0x80 ∧ mustEscape d = false) ∨ d = '%' ∨ d.isAlphanum = true := by
  rw [toList_encode, List.mem_flatMap] at h
  obtain ⟨c, -, hd⟩ := h
  rw [code] at hd
  split at hd
  next hplain =>
    obtain rfl := List.mem_singleton.1 hd
    exact .inl (by simpa using hplain)
  · exact .inr (of_mem_escapeChar hd)

/-! ## Texts that stand for themselves -/

theorem exists_cons_of_flatMap {cs : List Char} {b : UInt8} {more : List UInt8}
    (h : cs.flatMap String.utf8EncodeChar = b :: more) (hb : b.toNat < 0x80) :
    ∃ c rest, cs = c :: rest ∧ UInt8.ofNat c.toNat = b ∧ c.toNat < 0x80 ∧
      rest.flatMap String.utf8EncodeChar = more := by
  cases cs with
  | nil => cases h
  | cons c rest =>
      obtain ⟨first, bytes, hbytes, -⟩ := exists_utf8EncodeChar c
      have hfirst : first = b := by
        rw [List.flatMap_cons, hbytes] at h
        exact (List.cons.inj h).1
      have hmem : b ∈ String.utf8EncodeChar c := by
        rw [hbytes, hfirst]
        exact List.mem_cons_self
      have hcode := toNat_of_mem_utf8EncodeChar hmem hb
      rw [List.flatMap_cons, utf8EncodeChar_ascii (by omega)] at h
      obtain ⟨hbyte, hmore⟩ := List.cons.inj h
      exact ⟨c, rest, rfl, hbyte, by omega, hmore⟩

theorem startsEscape_iff_startsEscape {cs : List Char} :
    startsEscape cs = true ↔ StartsEscape (cs.flatMap String.utf8EncodeChar) := by
  have hpercent : String.utf8EncodeChar '%' = [0x25] := by decide
  constructor
  · intro h
    obtain ⟨high, low, rest, rfl, hhigh, hlow⟩ := startsEscape_iff.1 h
    have hhighCode := toNat_lt_of_isDigit hhigh
    have hlowCode := toNat_lt_of_isDigit hlow
    rw [← isSome_hexValue? hhighCode, Option.isSome_iff_exists] at hhigh
    rw [← isSome_hexValue? hlowCode, Option.isSome_iff_exists] at hlow
    obtain ⟨h, hhigh⟩ := hhigh
    obtain ⟨l, hlow⟩ := hlow
    refine ⟨_, _, rest.flatMap String.utf8EncodeChar, h, l, ?_, hhigh, hlow⟩
    rw [List.flatMap_cons, List.flatMap_cons, List.flatMap_cons, hpercent,
      utf8EncodeChar_ascii hhighCode, utf8EncodeChar_ascii hlowCode]
    rfl
  · rintro ⟨high, low, more, h, l, heq, hhigh, hlow⟩
    obtain ⟨c, rest, rfl, hc, hcCode, hrest⟩ := exists_cons_of_flatMap heq (by decide)
    obtain ⟨d, rest, rfl, hd, hdCode, hrest⟩ :=
      exists_cons_of_flatMap hrest (toNat_lt_of_hexValue? hhigh)
    obtain ⟨e, rest, rfl, he, heCode, -⟩ :=
      exists_cons_of_flatMap hrest (toNat_lt_of_hexValue? hlow)
    have hsign : c = '%' := by
      have hcode := congrArg UInt8.toNat hc
      rw [UInt8.toNat_ofNat'] at hcode
      have htwentyFive : (0x25 : UInt8).toNat = '%'.toNat := rfl
      rw [← Char.toNat_inj]
      omega
    refine startsEscape_iff.2 ⟨d, e, rest, by rw [hsign], ?_, ?_⟩
    · rw [← isSome_hexValue? hdCode, hd, hhigh]
      rfl
    · rw [← isSome_hexValue? heCode, he, hlow]
      rfl

theorem length_decodeBytes_le (bytes : List UInt8) : (decodeBytes bytes).length ≤ bytes.length := by
  match bytes with
  | [] => exact Nat.le_refl _
  | b :: rest =>
      by_cases h : StartsEscape (b :: rest)
      · obtain ⟨high, low, more, value, value', heq, hhigh, hlow⟩ := h
        obtain ⟨rfl, rfl⟩ := List.cons.inj heq
        have hmore := length_decodeBytes_le more
        rw [decodeBytes_escape hhigh hlow]
        simp only [List.length_cons]
        omega
      · have hrest := length_decodeBytes_le rest
        rw [decodeBytes_keep h, List.length_cons, List.length_cons]
        omega
termination_by bytes.length

/-- An escape takes three bytes and stands for one. -/
theorem length_decodeBytes_lt {bytes rest : List UInt8} (hrest : rest <:+ bytes)
    (hescape : StartsEscape rest) : (decodeBytes bytes).length + 2 ≤ bytes.length := by
  match bytes with
  | [] =>
      obtain ⟨_, _, _, _, _, rfl, -⟩ := hescape
      simp at hrest
  | b :: tail =>
      by_cases h : StartsEscape (b :: tail)
      · obtain ⟨high, low, more, value, value', heq, hhigh, hlow⟩ := h
        obtain ⟨rfl, rfl⟩ := List.cons.inj heq
        have hmore := length_decodeBytes_le more
        rw [decodeBytes_escape hhigh hlow]
        simp only [List.length_cons]
        omega
      · -- The escape lies behind the first byte, which is kept.
        rcases List.suffix_cons_iff.1 hrest with rfl | hrest
        · exact absurd hescape h
        · have htail := length_decodeBytes_lt hrest hescape
          rw [decodeBytes_keep h, List.length_cons, List.length_cons]
          omega
termination_by bytes.length

theorem HasEscape.length_lt {s text : String} (h : HasEscape s) (hdecodes : Decodes s text) :
    (bytesOf text).length + 2 ≤ (bytesOf s).length := by
  obtain ⟨cs, ⟨front, hfront⟩, hcs⟩ := h
  have hsuffix : cs.flatMap String.utf8EncodeChar <:+ bytesOf s := by
    rw [bytesOf_eq_flatMap, ← hfront, List.flatMap_append]
    exact List.suffix_append _ _
  rw [hdecodes]
  exact length_decodeBytes_lt hsuffix (startsEscape_iff_startsEscape.1 hcs)

theorem decodes_self_of_not_hasEscape {s : String} (h : ¬HasEscape s) : Decodes s s := by
  have hchars : ∀ cs : List Char, cs <:+ s.toList →
      decodeBytes (cs.flatMap String.utf8EncodeChar) = cs.flatMap String.utf8EncodeChar := by
    intro cs hcs
    induction cs with
    | nil => rfl
    | cons c cs ih =>
        have hrest := ih ((List.suffix_cons c cs).trans hcs)
        by_cases hc : c = '%'
        · have hstart : ¬StartsEscape ((c :: cs).flatMap String.utf8EncodeChar) := fun hstart =>
            h ⟨c :: cs, hcs, startsEscape_iff_startsEscape.2 hstart⟩
          have hpercent : String.utf8EncodeChar c = [0x25] := by
            rw [hc]
            decide
          rw [List.flatMap_cons, hpercent, List.singleton_append] at hstart ⊢
          rw [decodeBytes_keep hstart, hrest]
        · rw [List.flatMap_cons,
            decodeBytes_append_of_not_mem (percent_not_mem_utf8EncodeChar hc), hrest]
  rw [Decodes, bytesOf_eq_flatMap, hchars s.toList List.suffix_rfl]

end SafeReadme.Url
