import SafeReadme.Proofs.Url.Address

/-!
# Relative references

The generic syntax of addresses resolves a relative path in two steps on plain text: the path is
merged with the directory of the base, and the dot segments of the result are removed from the front,
while what is done moves from an input buffer to an output buffer. On the segments of a path the second
step is one pass, in which each segment is kept, skipped, or takes the one before it away.
-/

namespace SafeReadme.Url.Reference

/-! ## The two steps -/

/-- The path behind all but the last segment of the path of a base that has an authority. -/
def merge (base path : List Char) : List Char :=
  if base.isEmpty then '/' :: path else (base.reverse.dropWhile (· != '/')).reverse ++ path

/-- A buffer without its last segment and the slash in front of it, if there is one. -/
def withoutLast (output : List Char) : List Char :=
  ((output.reverse.dropWhile (· != '/')).drop 1).reverse

/-- Moves an input buffer to an output buffer, without the dot segments. -/
def removeDotSegments (output : List Char) : List Char → List Char
  | [] => output
  | '.' :: '.' :: '/' :: rest => removeDotSegments output rest
  | '.' :: '/' :: rest => removeDotSegments output rest
  | '/' :: '.' :: '/' :: rest => removeDotSegments output ('/' :: rest)
  | ['/', '.'] => removeDotSegments output ['/']
  | '/' :: '.' :: '.' :: '/' :: rest => removeDotSegments (withoutLast output) ('/' :: rest)
  | ['/', '.', '.'] => removeDotSegments (withoutLast output) ['/']
  | ['.'] => output
  | ['.', '.'] => output
  | c :: rest =>
      removeDotSegments (output ++ c :: rest.takeWhile (· != '/')) (rest.dropWhile (· != '/'))
termination_by input => input.length
decreasing_by
  all_goals simp only [List.length_cons, List.length_nil]
  all_goals try omega
  have hrest := (List.dropWhile_sublist (p := (· != '/')) (l := rest)).length_le
  omega

/-- The path that a relative path stands for in a document whose address has the path `base`. -/
def resolve (base path : String) : String :=
  String.ofList (removeDotSegments [] (merge base.toList path.toList))

theorem merge_directory {base : List Char} (h : base.getLast? = some '/') (path : List Char) :
    merge base path = base ++ path := by
  obtain ⟨front, rfl⟩ := List.getLast?_eq_some_iff.1 h
  simp [merge]

/-! ## Segments -/

/-- A path in which a slash stands in front of every segment. -/
def spell (segments : List (List Char)) : List Char :=
  segments.flatMap ('/' :: ·)

/-- The segments that are left when the dot segments of `segments` are removed behind `done`. A dot
segment at the end leaves an empty segment, so that the path still names a directory. -/
def settle (done : List (List Char)) : List (List Char) → List (List Char)
  | [] => done
  | segment :: rest =>
      if segment = ['.'] then settle (if rest = [] then done ++ [[]] else done) rest
      else if segment = ['.', '.'] then
        settle (if rest = [] then done.dropLast ++ [[]] else done.dropLast) rest
      else settle (done ++ [segment]) rest

theorem spell_nil : spell [] = [] := rfl

theorem spell_cons (segment : List Char) (rest : List (List Char)) :
    spell (segment :: rest) = '/' :: (segment ++ spell rest) := rfl

theorem spell_append (a b : List (List Char)) : spell (a ++ b) = spell a ++ spell b :=
  List.flatMap_append

theorem spell_map_toList {parts : List String} (h : parts ≠ []) :
    spell (parts.map String.toList) = ("/" ++ Text.joinWith "/" parts).toList := by
  induction parts with
  | nil => exact absurd rfl h
  | cons first rest ih =>
      have hslash : "/".toList = ['/'] := rfl
      cases rest with
      | nil =>
          rw [Text.joinWith, String.intercalate_singleton, String.toList_append, hslash]
          simp [spell]
      | cons second more =>
          have hmore := ih (by simp)
          rw [List.map_cons, spell_cons, hmore, Text.joinWith, Text.joinWith,
            String.intercalate_cons_cons]
          simp only [String.toList_append, hslash, List.singleton_append, List.append_assoc]

theorem breakAt_spell {segment : List Char} (h : '/' ∉ segment) (rest : List (List Char)) :
    (segment ++ spell rest).takeWhile (· != '/') = segment ∧
      (segment ++ spell rest).dropWhile (· != '/') = spell rest := by
  have hsegment : ∀ c ∈ segment, (c != '/') = true := by
    intro c hc
    simpa using fun heq : c = '/' => h (heq ▸ hc)
  rw [List.takeWhile_append_of_pos hsegment, List.dropWhile_append_of_pos hsegment]
  cases rest with
  | nil => simp [spell]
  | cons next more => simp [spell_cons]

theorem getLast?_spell {segments : List (List Char)} (h : ∀ s ∈ segments, '/' ∉ s) :
    (spell segments).getLast? = some '/' ↔ segments.getLast? = some [] := by
  rcases List.eq_nil_or_concat segments with rfl | ⟨front, last, rfl⟩
  · simp [spell]
  · rw [List.concat_eq_append] at h ⊢
    have hspell : spell (front ++ [last]) = spell front ++ '/' :: last := by
      simp [spell]
    rw [hspell, List.getLast?_append, List.getLast?_concat]
    rcases List.eq_nil_or_concat last with rfl | ⟨start, c, rfl⟩
    · simp
    · have hc : c ≠ '/' := fun heq => h (start.concat c) (by simp) (by simp [heq])
      simpa [List.getLast?_cons] using hc

theorem getLast?_joinWith {parts : List String} (hne : parts ≠ [])
    (h : ∀ part ∈ parts, '/' ∉ part.toList) :
    ("/" ++ Text.joinWith "/" parts).toList.getLast? = some '/' ↔ parts.getLast? = some "" := by
  have hslash : ∀ s ∈ parts.map String.toList, '/' ∉ s := by
    intro s hs
    obtain ⟨part, hpart, rfl⟩ := List.mem_map.1 hs
    exact h part hpart
  rw [← spell_map_toList hne, getLast?_spell hslash, List.getLast?_map, Option.map_eq_some_iff]
  simp only [String.toList_eq_nil_iff, exists_eq_right]

theorem withoutLast_spell {done : List (List Char)} (h : ∀ s ∈ done, '/' ∉ s) :
    withoutLast (spell done) = spell done.dropLast := by
  rcases List.eq_nil_or_concat done with rfl | ⟨front, last, rfl⟩
  · rfl
  · rw [List.concat_eq_append] at h ⊢
    have hlast : ∀ c ∈ last.reverse, (c != '/') = true := by
      intro c hc
      simpa using fun heq : c = '/' => h last (by simp) (heq ▸ List.mem_reverse.1 hc)
    have hreverse : (spell (front ++ [last])).reverse =
        last.reverse ++ '/' :: (spell front).reverse := by
      simp [spell]
    rw [withoutLast, hreverse, List.dropWhile_append_of_pos hlast,
      List.dropWhile_cons_of_neg (by simp), List.drop_one, List.tail_cons, List.reverse_reverse,
      List.dropLast_concat]

theorem removeDotSegments_move {segment : List Char} (hslash : '/' ∉ segment)
    (hdot : segment ≠ ['.']) (hdots : segment ≠ ['.', '.']) (output : List Char)
    (rest : List (List Char)) :
    removeDotSegments output (spell (segment :: rest)) =
      removeDotSegments (output ++ '/' :: segment) (spell rest) := by
  obtain ⟨htake, hdrop⟩ := breakAt_spell hslash rest
  -- No other rule fits, since the first segment would be a dot segment.
  have hfirst : ∀ {text : List Char}, '/' :: (segment ++ spell rest) = '/' :: text →
      segment = text.takeWhile (· != '/') := by
    intro text heq
    rw [← (List.cons.inj heq).2, htake]
  rw [spell_cons, removeDotSegments.eq_def]
  split
  next heq => cases heq
  next heq => cases heq
  next heq => cases heq
  next heq => exact absurd (hfirst heq) hdot
  next heq => exact absurd (hfirst heq) hdot
  next heq => exact absurd (hfirst heq) hdots
  next heq => exact absurd (hfirst heq) hdots
  next heq => cases heq
  next heq => cases heq
  next heq =>
    obtain ⟨rfl, rfl⟩ := List.cons.inj heq
    rw [htake, hdrop]

theorem removeDotSegments_slash (output : List Char) :
    removeDotSegments output ['/'] = output ++ ['/'] := by
  have hnone : '/' ∉ ([] : List Char) := List.not_mem_nil
  have hmove : removeDotSegments output ['/'] = removeDotSegments (output ++ ['/']) [] :=
    removeDotSegments_move hnone (by simp) (by simp) output []
  rw [hmove, removeDotSegments]

theorem spell_concat_nil (done : List (List Char)) : spell (done ++ [[]]) = spell done ++ ['/'] := by
  rw [spell_append]
  rfl

/-- **Dot segments are removed in one pass over the segments.** -/
theorem removeDotSegments_spell {segments done : List (List Char)}
    (hsegments : ∀ s ∈ segments, '/' ∉ s) (hdone : ∀ s ∈ done, '/' ∉ s) :
    removeDotSegments (spell done) (spell segments) = spell (settle done segments) := by
  induction segments generalizing done with
  | nil =>
      rw [settle, spell_nil, removeDotSegments]
  | cons segment rest ih =>
      have hrest : ∀ s ∈ rest, '/' ∉ s := fun s hs => hsegments s (List.mem_cons_of_mem _ hs)
      rw [settle]
      split
      next hdot =>
        subst hdot
        -- At the end the slash in front of the dot segment stays.
        cases rest with
        | nil =>
            show removeDotSegments (spell done) ['/', '.'] = _
            rw [removeDotSegments, removeDotSegments_slash, if_pos rfl, settle, spell_concat_nil]
        | cons next more =>
            show removeDotSegments (spell done) ('/' :: '.' :: '/' :: (next ++ spell more)) = _
            rw [removeDotSegments, if_neg (by simp)]
            exact ih hrest hdone
      next hdot =>
        split
        next hdots =>
          subst hdots
          have hlast : ∀ s ∈ done.dropLast, '/' ∉ s :=
            fun s hs => hdone s (List.dropLast_subset _ hs)
          cases rest with
          | nil =>
              show removeDotSegments (spell done) ['/', '.', '.'] = _
              rw [removeDotSegments, withoutLast_spell hdone, removeDotSegments_slash, if_pos rfl,
                settle, spell_concat_nil]
          | cons next more =>
              show removeDotSegments (spell done)
                ('/' :: '.' :: '.' :: '/' :: (next ++ spell more)) = _
              rw [removeDotSegments, withoutLast_spell hdone, if_neg (by simp)]
              exact ih hrest hlast
        next hdots =>
          have hsegment : '/' ∉ segment := hsegments segment (by simp)
          have hdone' : ∀ s ∈ done ++ [segment], '/' ∉ s := by
            intro s hs
            rcases List.mem_append.1 hs with hs | hs
            · exact hdone s hs
            · exact List.mem_singleton.1 hs ▸ hsegment
          have hspell : spell (done ++ [segment]) = spell done ++ '/' :: segment := by
            simp [spell]
          rw [removeDotSegments_move hsegment hdot hdots, ← hspell]
          exact ih hrest hdone'

example : removeDotSegments [] "/a/b/c/./../../g".toList = "/a/g".toList := by decide +kernel

section

variable {segment : List Char} {rest : List (List Char)} (done : List (List Char))

theorem settle_dot (h : rest ≠ []) : settle done (['.'] :: rest) = settle done rest := by
  rw [settle, if_pos rfl, if_neg h]

theorem settle_dots (h : rest ≠ []) :
    settle done (['.', '.'] :: rest) = settle done.dropLast rest := by
  rw [settle, if_neg (by decide), if_pos rfl, if_neg h]

theorem settle_other (hdot : segment ≠ ['.']) (hdots : segment ≠ ['.', '.'])
    (rest : List (List Char)) : settle done (segment :: rest) = settle (done ++ [segment]) rest := by
  rw [settle, if_neg hdot, if_neg hdots]

theorem settle_dots_last : settle done [['.', '.']] = done.dropLast ++ [[]] := rfl

end

/-- Behind segments that are no dot segments the pass goes on as it started. -/
theorem settle_append {front : List (List Char)} (h : ∀ s ∈ front, s ≠ ['.'] ∧ s ≠ ['.', '.'])
    (done rest : List (List Char)) : settle done (front ++ rest) = settle (done ++ front) rest := by
  induction front generalizing done with
  | nil => rw [List.nil_append, List.append_nil]
  | cons s front ih =>
      obtain ⟨hdot, hdots⟩ := h s (by simp)
      rw [List.cons_append, settle_other _ hdot hdots,
        ih (fun t ht => h t (List.mem_cons_of_mem _ ht)), List.append_assoc, List.singleton_append]

end SafeReadme.Url.Reference
