import Mathlib.Data.List.Basic
import SafeReadme.Url.Percent

/-!
# Decoded text

Decoding works on the bytes of a text, so not every text has one that it stands for. A slash is no
part of an escape and no part of a longer code, so what stands before it and what stands behind it
are decoded apart from each other.
-/

namespace SafeReadme.Url

/-! ## Bytes -/

def bytesOf (s : String) : List UInt8 :=
  s.toUTF8.data.toList

theorem bytesOf_append (a b : String) : bytesOf (a ++ b) = bytesOf a ++ bytesOf b := by
  simp [bytesOf]

theorem bytesOf_inj {a b : String} (h : bytesOf a = bytesOf b) : a = b := by
  rw [← String.toByteArray_inj]
  exact ByteArray.ext (Array.toList_inj.1 h)

theorem bytesOf_eq_flatMap (s : String) : bytesOf s = s.toList.flatMap String.utf8EncodeChar := by
  rw [bytesOf, String.toUTF8_eq_toByteArray, ← String.utf8Encode_toList, List.utf8Encode]
  simp

theorem toNat_of_mem_utf8EncodeChar {c : Char} {b : UInt8} (h : b ∈ String.utf8EncodeChar c)
    (hb : b.toNat < 0x80) : c.toNat = b.toNat := by
  unfold String.utf8EncodeChar at h
  have hcode : c.val.toNat = c.toNat := rfl
  simp only [hcode] at h
  split at h
  next hsmall =>
    obtain rfl := List.mem_singleton.1 h
    rw [UInt8.toNat_ofNat']
    omega
  · -- Every byte of a longer code has its highest bit set.
    exfalso
    split at h
    · simp only [List.mem_cons, List.not_mem_nil, or_false] at h
      rcases h with rfl | rfl <;> rw [UInt8.toNat_ofNat'] at hb <;> omega
    · split at h
      · simp only [List.mem_cons, List.not_mem_nil, or_false] at h
        rcases h with rfl | rfl | rfl <;> rw [UInt8.toNat_ofNat'] at hb <;> omega
      · simp only [List.mem_cons, List.not_mem_nil, or_false] at h
        rcases h with rfl | rfl | rfl | rfl <;> rw [UInt8.toNat_ofNat'] at hb <;> omega

theorem mem_of_mem_bytesOf {s : String} {c : Char} {b : UInt8} (h : b ∈ bytesOf s)
    (hb : b.toNat < 0x80) (hc : c.toNat = b.toNat) : c ∈ s.toList := by
  rw [bytesOf_eq_flatMap, List.mem_flatMap] at h
  obtain ⟨d, hd, hbyte⟩ := h
  have heq : d = c := by
    rw [← Char.toNat_inj, toNat_of_mem_utf8EncodeChar hbyte hb, hc]
  exact heq ▸ hd

/-- Texts with a common start in bytes have it in characters. -/
theorem exists_append_of_bytesOf {front whole : String} {rest : List UInt8}
    (h : bytesOf whole = bytesOf front ++ rest) :
    ∃ back, whole = front ++ back ∧ bytesOf back = rest := by
  have hbytes : front.toList.utf8Encode ++ ⟨rest.toArray⟩ = whole.toList.utf8Encode := by
    rw [String.utf8Encode_toList, String.utf8Encode_toList]
    apply ByteArray.ext
    apply Array.toList_inj.1
    simpa [bytesOf] using h.symm
  obtain ⟨more, hmore⟩ := List.isPrefix_of_utf8Encode_append_eq_utf8Encode _ hbytes
  have hwhole : whole = front ++ String.ofList more := by
    rw [← String.toList_inj, String.toList_append, String.toList_ofList, hmore]
  refine ⟨String.ofList more, hwhole, ?_⟩
  rw [hwhole, bytesOf_append] at h
  exact List.append_cancel_left h

/-! ## Escapes -/

def StartsEscape (bytes : List UInt8) : Prop :=
  ∃ high low more h l, bytes = 0x25 :: high :: low :: more ∧ hexValue? high = some h ∧
    hexValue? low = some l

theorem decodeBytes_escape {high low h l : UInt8} (hhigh : hexValue? high = some h)
    (hlow : hexValue? low = some l) (more : List UInt8) :
    decodeBytes (0x25 :: high :: low :: more) = (h * 16 + l) :: decodeBytes more := by
  rw [decodeBytes, hhigh, hlow]
  rfl

theorem decodeBytes_keep {b : UInt8} {rest : List UInt8} (h : ¬StartsEscape (b :: rest)) :
    decodeBytes (b :: rest) = b :: decodeBytes rest := by
  by_cases hb : b = 0x25
  · subst hb
    match rest with
    | [] => rfl
    | [c] =>
        by_cases hc : c = 0x25
        · subst hc
          rfl
        · simp [decodeBytes, hc]
    | high :: low :: more =>
        cases hhigh : hexValue? high with
        | none => simp [decodeBytes, hhigh]
        | some value =>
            cases hlow : hexValue? low with
            | none => simp [decodeBytes, hhigh, hlow]
            | some value' => exact absurd ⟨high, low, more, value, value', rfl, hhigh, hlow⟩ h
  · match rest with
    | [] => simp [decodeBytes, hb]
    | [_] => simp [decodeBytes, hb]
    | _ :: _ :: _ => simp [decodeBytes, hb]

theorem startsEscape_append_slash {front back : List UInt8} :
    StartsEscape (front ++ 0x2F :: back) ↔ StartsEscape front := by
  have hslash : hexValue? 0x2F = none := by decide
  constructor
  · rintro ⟨high, low, more, h, l, heq, hhigh, hlow⟩
    -- The slash cannot be one of the three bytes.
    match front, heq with
    | [_], heq =>
        simp only [List.cons_append, List.nil_append, List.cons.injEq] at heq
        rw [← heq.2.1, hslash] at hhigh
        cases hhigh
    | [_, _], heq =>
        simp only [List.cons_append, List.nil_append, List.cons.injEq] at heq
        rw [← heq.2.2.1, hslash] at hlow
        cases hlow
    | _ :: _ :: _ :: rest, heq =>
        simp only [List.cons_append, List.cons.injEq] at heq
        obtain ⟨rfl, rfl, rfl, -⟩ := heq
        exact ⟨_, _, rest, h, l, rfl, hhigh, hlow⟩
  · rintro ⟨high, low, more, h, l, rfl, hhigh, hlow⟩
    exact ⟨high, low, more ++ 0x2F :: back, h, l, rfl, hhigh, hlow⟩

/-- A slash is no part of an escape. -/
theorem decodeBytes_append_slash (front back : List UInt8) :
    decodeBytes (front ++ 0x2F :: back) = decodeBytes front ++ 0x2F :: decodeBytes back := by
  match front with
  | [] =>
      have hslash : ¬StartsEscape (0x2F :: back) := by
        rintro ⟨_, _, _, _, _, heq, -⟩
        cases heq
      exact decodeBytes_keep hslash
  | b :: rest =>
      by_cases h : StartsEscape (b :: rest)
      · obtain ⟨high, low, more, value, value', heq, hhigh, hlow⟩ := h
        obtain ⟨rfl, rfl⟩ := List.cons.inj heq
        have hmore := decodeBytes_append_slash more back
        rw [decodeBytes_escape hhigh hlow, List.cons_append, List.cons_append, List.cons_append,
          decodeBytes_escape hhigh hlow, hmore, List.cons_append]
      · have hrest := decodeBytes_append_slash rest back
        have hjoint : ¬StartsEscape (b :: (rest ++ 0x2F :: back)) := by
          rwa [← List.cons_append, startsEscape_append_slash]
        rw [decodeBytes_keep h, List.cons_append, decodeBytes_keep hjoint, hrest, List.cons_append]
termination_by front.length

theorem decodeBytes_of_not_mem {bytes : List UInt8} (h : 0x25 ∉ bytes) :
    decodeBytes bytes = bytes := by
  induction bytes with
  | nil => rfl
  | cons b rest ih =>
      have hb : ¬StartsEscape (b :: rest) := by
        rintro ⟨_, _, _, _, _, heq, -⟩
        exact h (by simp [heq])
      rw [decodeBytes_keep hb, ih fun hmem => h (List.mem_cons_of_mem _ hmem)]

/-! ## Decoding -/

/-- `text` is what `s` stands for: its bytes are those of `s` with every escape replaced by the byte
that it names. -/
def Decodes (s text : String) : Prop :=
  bytesOf text = decodeBytes (bytesOf s)

instance (s text : String) : Decidable (Decodes s text) :=
  inferInstanceAs (Decidable (_ = _))

theorem decode?_eq_some_iff {s text : String} : decode? s = some text ↔ Decodes s text := by
  have hbytes : ∀ text : String, Decodes s text ↔
      text.toByteArray = ⟨(decodeBytes (bytesOf s)).toArray⟩ := by
    intro text
    rw [Decodes, bytesOf, String.toUTF8_eq_toByteArray, ByteArray.ext_iff, ← Array.toList_inj]
  rw [hbytes, decode?, String.fromUTF8?]
  constructor
  · intro h
    split at h
    next hvalid =>
      obtain rfl := Option.some.inj h
      rfl
    · cases h
  · intro h
    have hvalid : ByteArray.IsValidUTF8 ⟨(decodeBytes s.toUTF8.data.toList).toArray⟩ :=
      h ▸ text.isValidUTF8
    rw [dif_pos hvalid, Option.some.injEq, ← String.toByteArray_inj]
    exact h.symm

theorem Decodes.eq {s text text' : String} (h : Decodes s text) (h' : Decodes s text') :
    text = text' :=
  bytesOf_inj (h.trans h'.symm)

theorem decodes_self {s : String} (h : '%' ∉ s.toList) : Decodes s s := by
  have hbytes : 0x25 ∉ bytesOf s := fun hmem => h (mem_of_mem_bytesOf hmem (by decide) (by decide))
  rw [Decodes, decodeBytes_of_not_mem hbytes]

/-- Behind a text that is decoded and a slash, only what follows decides. -/
theorem decodes_append_slash {front text back whole : String} (h : Decodes front text) :
    Decodes (front ++ "/" ++ back) whole ↔
      ∃ rest, Decodes back rest ∧ whole = text ++ "/" ++ rest := by
  have hslash : bytesOf "/" = [0x2F] := by decide
  have hdecoded : decodeBytes (bytesOf (front ++ "/" ++ back)) =
      bytesOf (text ++ "/") ++ decodeBytes (bytesOf back) := by
    rw [bytesOf_append, bytesOf_append, bytesOf_append, hslash, List.append_assoc,
      List.singleton_append, decodeBytes_append_slash, ← h, List.append_assoc,
      List.singleton_append]
  rw [Decodes, hdecoded]
  constructor
  · intro hwhole
    obtain ⟨rest, rfl, hrest⟩ := exists_append_of_bytesOf hwhole
    exact ⟨rest, hrest, rfl⟩
  · rintro ⟨rest, hrest, rfl⟩
    rw [bytesOf_append, hrest]

end SafeReadme.Url
