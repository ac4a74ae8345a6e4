import SafeReadme.Proofs.Repository.Reference
import SafeReadme.Proofs.Url.Encoding

/-!
# Joined paths lead where they were printed

A place is printed as its segments, each of them encoded. The segments that a walk collects hold no
separator, so the printed path is cut where it was joined, and following it from the root leads to
the same place.
-/

namespace SafeReadme

open Url

namespace Text

theorem mem_of_mem_fields {p : Char → Bool} {cs field : List Char} (h : field ∈ fields p cs) :
    field ⊆ cs := by
  induction cs generalizing field with
  | nil =>
      obtain rfl := List.mem_singleton.1 h
      exact List.Subset.refl _
  | cons c rest ih =>
      rw [fields_cons] at h
      split at h
      · rcases List.mem_cons.1 h with rfl | h
        · exact List.nil_subset _
        · exact List.subset_cons_of_subset c (ih h)
      · obtain ⟨first, more, hrest⟩ := List.exists_cons_of_ne_nil (fields_ne_nil p rest)
        rw [hrest] at h ih
        rcases List.mem_cons.1 h with rfl | h
        · exact List.cons_subset_cons c (ih List.mem_cons_self)
        · exact List.subset_cons_of_subset c (ih (List.mem_cons_of_mem _ h))

end Text

namespace Repository

/-! ## Names -/

/-- What a walk takes for the name of a file or a directory. -/
structure IsFileName (segment : String) : Prop where
  entry : IsEntry segment
  chars : ∀ c ∈ segment.toList, c ≠ '/' ∧ c ≠ '\\' ∧ c ≠ '\x00'

/-- A segment that a walk from the root collects. -/
def IsCollected (segment : String) : Prop :=
  ∃ path place, walk [] path = .ok place ∧ segment ∈ place.segments

theorem isFileName_of_mem_walk {base : List String} {path : String} {place : Place}
    (h : walk base path = .ok place) : ∀ s ∈ place.segments, s ∈ base ∨ IsFileName s := by
  obtain ⟨segments, last, hsegments, hlast, rfl⟩ := exists_last_of_walk h
  obtain ⟨text, -, hclean, rfl⟩ := exists_decodes_of_segmentsOf hsegments
  intro s hs
  rcases mem_foldlM_follow hlast s hs with hs | ⟨hs, hentry⟩
  · exact .inl hs
  · refine .inr ⟨hentry, fun c hc => ?_⟩
    obtain ⟨field, hfield, rfl⟩ := List.mem_map.1 hs
    rw [String.toList_ofList] at hc
    have hslash := Text.not_separator_of_mem_fields hfield c hc
    simp only [Bool.or_eq_false_iff, beq_eq_false_iff_ne] at hslash
    refine ⟨hslash.1, hslash.2, ?_⟩
    rintro rfl
    exact hclean (Text.mem_of_mem_fields hfield hc)

/-! ## Following what was printed -/

theorem decodes_joinWith (parts : List String) :
    Decodes (Text.joinWith "/" (parts.map encodeSegment)) (Text.joinWith "/" parts) := by
  induction parts with
  | nil => decide
  | cons first rest ih =>
      have hfirst : Decodes (encodeSegment first) first := decodes_encode (by decide) first
      cases rest with
      | nil =>
          rw [List.map_singleton, Text.joinWith, Text.joinWith, String.intercalate_singleton,
            String.intercalate_singleton]
          exact hfirst
      | cons second rest =>
          rw [List.map_cons, List.map_cons, Text.joinWith, Text.joinWith,
            String.intercalate_cons_cons, String.intercalate_cons_cons]
          exact (decodes_append_slash hfirst).2 ⟨_, ih, rfl⟩

theorem segmentsIn_joinWith {parts : List String} (hne : parts ≠ [])
    (h : ∀ part ∈ parts, ∀ c ∈ part.toList, c ≠ '/' ∧ c ≠ '\\' ∧ c ≠ '\x00') :
    segmentsIn (Text.joinWith "/" parts) = parts := by
  have hslash : ∀ part ∈ parts, ∀ c ∈ part.toList, (c == '/' || c == '\\') = false := by
    intro part hpart c hc
    simp [h part hpart c hc]
  rw [segmentsIn, Text.fields_joinWith rfl hne hslash, List.map_map]
  simp [Function.comp_def]

theorem segmentsOf_joinWith {parts : List String} (hne : parts ≠ [])
    (h : ∀ part ∈ parts, ∀ c ∈ part.toList, c ≠ '/' ∧ c ≠ '\\' ∧ c ≠ '\x00') :
    segmentsOf (Text.joinWith "/" (parts.map encodeSegment)) = .ok parts := by
  have hclean : '\x00' ∉ (Text.joinWith "/" parts).toList := by
    intro hmem
    rcases Text.mem_joinWith_slash hmem with hslash | ⟨part, hpart, hnul⟩
    · exact absurd hslash (by decide)
    · exact (h part hpart _ hnul).2.2 rfl
  rw [segmentsOf_of_decodes (decodes_joinWith parts), if_neg hclean, segmentsIn_joinWith hne h]

theorem foldlM_follow_entries {segments : List String} (h : ∀ s ∈ segments, IsEntry s)
    (base : List String) :
    segments.foldlM Place.follow ⟨base, false⟩ = .ok ⟨base ++ segments, false⟩ := by
  induction segments generalizing base with
  | nil =>
      rw [List.append_nil]
      rfl
  | cons segment rest ih =>
      have hrest := ih (fun s hs => h s (List.mem_cons_of_mem _ hs)) (base ++ [segment])
      rw [List.append_assoc, List.singleton_append] at hrest
      rw [List.foldlM_cons, Place.follow_entry (h segment List.mem_cons_self)]
      exact hrest

theorem foldlM_follow_written {place : Place} (h : ∀ s ∈ place.segments, IsEntry s) :
    place.written.foldlM Place.follow ⟨[], false⟩ = .ok place := by
  have hsegments := foldlM_follow_entries h []
  rw [List.nil_append] at hsegments
  obtain ⟨segments, isDirectory⟩ := place
  cases isDirectory with
  | false =>
      rw [Place.written, if_neg (by simp), List.append_nil]
      exact hsegments
  | true =>
      rw [Place.written, if_pos rfl, List.foldlM_append, hsegments]
      rfl

theorem chars_of_mem_written {place : Place} (h : ∀ s ∈ place.segments, IsFileName s) :
    ∀ s ∈ place.written, ∀ c ∈ s.toList, c ≠ '/' ∧ c ≠ '\\' ∧ c ≠ '\x00' := by
  intro s hs
  rcases Place.mem_written hs with hs | rfl
  · exact (h s hs).chars
  · simp

/-- **The path of a place leads there from the root.** -/
theorem walk_print {place : Place} (h : ∀ s ∈ place.segments, IsFileName s) :
    walk [] place.close.print = .ok place.close := by
  have hfollow := foldlM_follow_written fun s hs => (h s hs).entry
  rw [Place.print_close]
  by_cases hne : place.written = []
  · -- Nothing is written of the root if the walk to it did not end like that to a directory.
    rw [hne] at hfollow ⊢
    obtain rfl := Except.ok.inj hfollow
    decide +kernel
  · rw [walk_of_segmentsOf (segmentsOf_joinWith hne (chars_of_mem_written h)), hfollow]
    rfl

/-- Every name is collected by some walk, and nothing else is. -/
theorem isCollected_iff {segment : String} : IsCollected segment ↔ IsFileName segment := by
  constructor
  · rintro ⟨path, place, hwalk, hsegment⟩
    rcases isFileName_of_mem_walk hwalk segment hsegment with hbase | hname
    · cases hbase
    · exact hname
  · intro hname
    have hplace : ∀ s ∈ [segment], IsFileName s := List.forall_mem_singleton.2 hname
    have hwalk : walk [] (Place.mk [segment] false).close.print =
        .ok (Place.mk [segment] false).close := walk_print hplace
    exact ⟨_, _, hwalk, List.mem_singleton_self segment⟩

/-! ## Joined paths -/

theorem exists_place_of_join {base : List String} {path joined : String}
    (hbase : ∀ s ∈ base, IsCollected s) (h : join base path = .ok joined) :
    ∃ place : Place, (∀ s ∈ place.segments, IsFileName s) ∧ walk base path = .ok place.close ∧
      joined = place.close.print := by
  rw [join] at h
  cases hwalk : walk base path with
  | error rejection =>
      rw [hwalk] at h
      cases h
  | ok place =>
      rw [hwalk] at h
      obtain rfl := Except.ok.inj h
      have hnames : ∀ s ∈ place.segments, IsFileName s := by
        intro s hs
        rcases isFileName_of_mem_walk hwalk s hs with hs | hname
        · exact isCollected_iff.1 (hbase s hs)
        · exact hname
      obtain ⟨segments, last, -, -, rfl⟩ := exists_last_of_walk hwalk
      exact ⟨last, hnames, rfl, rfl⟩

/-- The characters of ASCII that no joined path holds, controls and DEL apart. -/
def neverJoined : List Char :=
  [' ', '"', '#', '<', '>', '?', '\\', '\x60', '\x7b', '\x7d']

theorem printable_of_mem_encodeSegment {segment : String} {c : Char}
    (h : c ∈ (encodeSegment segment).toList) :
    0x20 < c.toNat ∧ c.toNat < 0x7F ∧ c ∉ neverJoined := by
  rcases mem_encode h with ⟨hascii, hkept⟩ | rfl | halphanum
  · simp only [mustEscape, Bool.or_eq_false_iff, decide_eq_false_iff_not, beq_eq_false_iff_ne,
      List.contains_eq_mem, List.mem_cons, List.not_mem_nil, or_false, not_or] at hkept
    obtain ⟨⟨hcontrol, hdelete⟩, hspace, hrest⟩ := hkept
    have hcode : c.toNat ≠ ' '.toNat := fun heq => hspace (Char.toNat_inj.1 heq)
    have htwenty : ' '.toNat = 0x20 := rfl
    refine ⟨by omega, by omega, ?_⟩
    simp [neverJoined, hspace, hrest]
  · decide
  · have hcode : 0x30 ≤ c.toNat ∧ c.toNat ≤ 0x7A := by
      have hclass := halphanum
      unfold Char.isAlphanum Char.isAlpha at hclass
      simp only [Bool.or_eq_true, Text.isUpper_iff, Text.isLower_iff, Text.isDigit_iff] at hclass
      omega
    refine ⟨by omega, by omega, fun hmem => ?_⟩
    have hall : neverJoined.all (fun d => !d.isAlphanum) = true := by decide
    simpa [halphanum] using List.all_eq_true.1 hall c hmem

theorem printable_of_mem_joinWith {segments : List String} {c : Char}
    (h : c ∈ (Text.joinWith "/" (segments.map encodeSegment)).toList) :
    0x20 < c.toNat ∧ c.toNat < 0x7F ∧ c ∉ neverJoined := by
  rcases Text.mem_joinWith_slash h with rfl | ⟨part, hpart, hc⟩
  · decide
  · obtain ⟨segment, -, rfl⟩ := List.mem_map.1 hpart
    exact printable_of_mem_encodeSegment hc

theorem escapesAll_joinWith (segments : List String) :
    EscapesAll (Text.joinWith "/" (segments.map encodeSegment)).toList := by
  induction segments with
  | nil => exact escapesAll_nil
  | cons first rest ih =>
      have hfirst : EscapesAll (encodeSegment first).toList := escapesAll_encode (by decide) first
      cases rest with
      | nil =>
          rw [List.map_singleton, Text.joinWith, String.intercalate_singleton]
          exact hfirst
      | cons second rest =>
          rw [List.map_cons, List.map_cons, Text.joinWith, String.intercalate_cons_cons,
            String.toList_append, String.toList_append, List.append_assoc]
          exact hfirst.append (ih.cons (by decide))

/-- Only a directory is printed with a slash at the end, and the root is none. -/
theorem Place.print_close_cases (place : Place) :
    place.close.print = Text.joinWith "/" (place.segments.map encodeSegment) ∨
      place.segments ≠ [] ∧
        place.close.print = Text.joinWith "/" (place.segments.map encodeSegment) ++ "/" := by
  rw [print, close]
  by_cases hdirectory : (place.isDirectory && !place.segments.isEmpty) = true
  · have hne : place.segments ≠ [] := by
      rw [Bool.and_eq_true] at hdirectory
      simpa using hdirectory.2
    exact .inr ⟨hne, by rw [if_pos hdirectory]⟩
  · exact .inl (by rw [if_neg hdirectory, String.append_empty])

/-- **A joined path is a fixed point, cleanly cut.** Whatever path is followed from a directory of
segments that walks have collected, the joined path leads from the root to itself; it is printable
ASCII without the characters that mean something else in a URL; each of its percent signs starts an
escape; and up to one slash at its end it is put together from segments that are not empty and
stand for no dot segment and for no text with a separator or a NUL in it. -/
theorem join_joined {base : List String} {path joined : String}
    (hbase : ∀ s ∈ base, IsCollected s) (h : join base path = .ok joined) :
    join [] joined = .ok joined ∧
      (∀ c ∈ joined.toList, 0x20 < c.toNat ∧ c.toNat < 0x7F ∧ c ∉ neverJoined) ∧
      (∀ rest, '%' :: rest <:+ joined.toList → startsEscape ('%' :: rest) = true) ∧
      ∃ segments,
        (joined = Text.joinWith "/" segments ∨
          segments ≠ [] ∧ joined = Text.joinWith "/" segments ++ "/") ∧
        ∀ s ∈ segments, s ≠ "" ∧ '/' ∉ s.toList ∧
          ∃ text, Decodes s text ∧ text ≠ "." ∧ text ≠ ".." ∧
            ∀ c ∈ text.toList, c ≠ '/' ∧ c ≠ '\\' ∧ c ≠ '\x00' := by
  obtain ⟨place, hnames, hwalk, rfl⟩ := exists_place_of_join hbase h
  have hprint := place.print_close_cases
  rw [Ne, ← List.map_eq_nil_iff] at hprint
  refine ⟨?_, ?_, ?_, place.segments.map encodeSegment, hprint, ?_⟩
  · rw [join, walk_print hnames]
    rfl
  · rw [Place.print_close]
    exact fun c hc => printable_of_mem_joinWith hc
  · rw [Place.print_close]
    exact escapesAll_joinWith place.written
  · intro s hs
    obtain ⟨name, hname, rfl⟩ := List.mem_map.1 hs
    obtain ⟨hentry, hchars⟩ := hnames name hname
    have hslash : '/' ∉ (encodeSegment name).toList := fun hmem =>
      absurd (isSlash_encodeSegment name _ hmem) (by decide)
    exact ⟨fun hempty => hentry.1 (encodeSegment_eq_empty_iff.1 hempty), hslash, name,
      decodes_encode (by decide) name, hentry.2.1, hentry.2.2, hchars⟩

/-- From a directory whose name holds a percent sign, a path with a backslash, an encoded slash, dots
that are encoded twice, an empty segment and a dot at its end. -/
theorem join_joined_encoded :
    (∀ s ∈ ["docs", "100%"], IsCollected s) ∧
      join ["docs", "100%"] "..\\a b%2f%252e%252e//%E2%82%AC/." =
        .ok "docs/a%20b/%252e%252e/%E2%82%AC/" ∧
      join [] "docs/a%20b/%252e%252e/%E2%82%AC/" = .ok "docs/a%20b/%252e%252e/%E2%82%AC/" := by
  have hwalk : walk [] "docs/100%25" = .ok ⟨["docs", "100%"], false⟩ := by decide +kernel
  have hbase : ∀ s ∈ ["docs", "100%"], IsCollected s := fun s hs => ⟨_, _, hwalk, hs⟩
  have hjoin : join ["docs", "100%"] "..\\a b%2f%252e%252e//%E2%82%AC/." =
      .ok "docs/a%20b/%252e%252e/%E2%82%AC/" := by decide +kernel
  exact ⟨hbase, hjoin, (join_joined hbase hjoin).1⟩

end Repository

end SafeReadme
