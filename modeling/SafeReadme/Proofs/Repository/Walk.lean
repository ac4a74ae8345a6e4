import Mathlib.Data.List.Infix
import SafeReadme.Proofs.Url.Address
import SafeReadme.Proofs.Url.Decoding
import SafeReadme.Repository.Path

/-!
# Walks through a repository

A walk follows the segments of a decoded path one by one. It fails for a path that stands for no
text, and where some start of the path leads further up than there are directories.
-/

namespace SafeReadme.Repository

open Url

/-! ## The segments of a path -/

/-- The parts of a decoded path between slashes of both kinds. -/
def segmentsIn (text : String) : List String :=
  (Text.fields (fun c => c == '/' || c == '\\') text.toList).map String.ofList

/-- A path that stands for bytes which are no text, or for a text with a NUL. -/
def IsMalformed (path : String) : Prop :=
  (¬∃ text, Decodes path text) ∨ ∃ text, Decodes path text ∧ '\x00' ∈ text.toList

theorem segmentsOf_of_decodes {path text : String} (h : Decodes path text) :
    segmentsOf path =
      if '\x00' ∈ text.toList then .error .malformed else .ok (segmentsIn text) := by
  rw [segmentsOf, decode?_eq_some_iff.2 h]
  simp [segmentsIn]

theorem segmentsOf_of_isMalformed {path : String} (h : IsMalformed path) :
    segmentsOf path = .error .malformed := by
  rcases h with hnone | ⟨text, htext, hnul⟩
  · have hdecode : decode? path = none := by
      rw [Option.eq_none_iff_forall_not_mem]
      intro text htext
      exact hnone ⟨text, decode?_eq_some_iff.1 htext⟩
    rw [segmentsOf, hdecode]
  · rw [segmentsOf_of_decodes htext, if_pos hnul]

theorem exists_decodes_of_not_isMalformed {path : String} (h : ¬IsMalformed path) :
    ∃ text, Decodes path text ∧ '\x00' ∉ text.toList ∧ segmentsOf path = .ok (segmentsIn text) := by
  rw [IsMalformed, not_or, not_not] at h
  obtain ⟨⟨text, htext⟩, hnul⟩ := h
  have hclean : '\x00' ∉ text.toList := fun hmem => hnul ⟨text, htext, hmem⟩
  refine ⟨text, htext, hclean, ?_⟩
  rw [segmentsOf_of_decodes htext, if_neg hclean]

theorem segmentsIn_ne_nil (text : String) : segmentsIn text ≠ [] := by
  rw [segmentsIn, Ne, List.map_eq_nil_iff]
  exact Text.fields_ne_nil _ _

theorem exists_decodes_of_segmentsOf {path : String} {segments : List String}
    (h : segmentsOf path = .ok segments) :
    ∃ text, Decodes path text ∧ '\x00' ∉ text.toList ∧ segments = segmentsIn text := by
  by_cases hmalformed : IsMalformed path
  · rw [segmentsOf_of_isMalformed hmalformed] at h
    cases h
  · obtain ⟨text, htext, hclean, hsegments⟩ := exists_decodes_of_not_isMalformed hmalformed
    rw [h] at hsegments
    exact ⟨text, htext, hclean, Except.ok.inj hsegments⟩

theorem segmentsOf_ne_nil {path : String} {segments : List String}
    (h : segmentsOf path = .ok segments) : segments ≠ [] := by
  obtain ⟨text, -, -, rfl⟩ := exists_decodes_of_segmentsOf h
  exact segmentsIn_ne_nil text

theorem isSlash_of_mem_segmentsOf {path : String} {segments : List String}
    (h : segmentsOf path = .ok segments) :
    ∀ s ∈ segments, ∀ c ∈ s.toList, Address.isSlash c = false := by
  obtain ⟨text, -, -, rfl⟩ := exists_decodes_of_segmentsOf h
  intro s hs
  obtain ⟨field, hfield, rfl⟩ := List.mem_map.1 hs
  rw [String.toList_ofList]
  exact Text.not_separator_of_mem_fields hfield

theorem segmentsIn_append_slash (front back : String) :
    segmentsIn (front ++ "/" ++ back) = segmentsIn front ++ segmentsIn back := by
  have hchars : (front ++ "/" ++ back).toList = front.toList ++ '/' :: back.toList := by
    rw [String.toList_append, String.toList_append, List.append_assoc]
    rfl
  rw [segmentsIn, hchars, Text.fields_append rfl, List.map_append]
  rfl

theorem segmentsOf_append_slash {front : String} {segments : List String}
    (h : segmentsOf front = .ok segments) (back : String) :
    segmentsOf (front ++ "/" ++ back) = (segmentsOf back).map (segments ++ ·) := by
  obtain ⟨text, htext, hclean, rfl⟩ := exists_decodes_of_segmentsOf h
  have hslash : '\x00' ∉ (text ++ "/").toList := by
    rw [String.toList_append, List.mem_append, not_or]
    exact ⟨hclean, by decide⟩
  by_cases hback : IsMalformed back
  · have hwhole : IsMalformed (front ++ "/" ++ back) := by
      rcases hback with hnone | ⟨rest, hrest, hnul⟩
      · refine .inl fun ⟨whole, hdecodes⟩ => hnone ?_
        obtain ⟨rest, hrest, -⟩ := (decodes_append_slash htext).1 hdecodes
        exact ⟨rest, hrest⟩
      · refine .inr ⟨_, (decodes_append_slash htext).2 ⟨rest, hrest, rfl⟩, ?_⟩
        rw [String.toList_append]
        exact List.mem_append_right _ hnul
    rw [segmentsOf_of_isMalformed hwhole, segmentsOf_of_isMalformed hback]
    rfl
  · obtain ⟨rest, hrest, hrestClean, hrestSegments⟩ := exists_decodes_of_not_isMalformed hback
    have hwhole := (decodes_append_slash htext).2 ⟨rest, hrest, rfl⟩
    have hclean : '\x00' ∉ (text ++ "/" ++ rest).toList := by
      rw [String.toList_append, List.mem_append, not_or]
      exact ⟨hslash, hrestClean⟩
    rw [segmentsOf_of_decodes hwhole, if_neg hclean, segmentsIn_append_slash, hrestSegments]
    rfl

/-! ## One segment -/

def IsEntry (segment : String) : Prop :=
  segment ≠ "" ∧ segment ≠ "." ∧ segment ≠ ".."

instance : DecidablePred IsEntry :=
  fun _ => inferInstanceAs (Decidable (_ ∧ _ ∧ _))

/-- A segment leads nowhere, up, or into a directory. -/
theorem segment_cases (segment : String) :
    (segment = "" ∨ segment = ".") ∨ segment = ".." ∨ IsEntry segment := by
  by_cases hhere : segment = "" ∨ segment = "."
  · exact .inl hhere
  · rw [not_or] at hhere
    by_cases habove : segment = ".."
    · exact .inr (.inl habove)
    · exact .inr (.inr ⟨hhere.1, hhere.2, habove⟩)

theorem Place.follow_here {segment : String} (h : segment = "" ∨ segment = ".") (place : Place) :
    place.follow segment = .ok ⟨place.segments, true⟩ := by
  rw [follow, if_pos h]

theorem Place.follow_above (place : Place) :
    place.follow ".." =
      if place.segments = [] then .error .traversal else .ok ⟨place.segments.dropLast, true⟩ := by
  rw [follow, if_neg (by decide), if_pos rfl]
  simp only [List.isEmpty_iff]

theorem Place.follow_entry {segment : String} (h : IsEntry segment) (place : Place) :
    place.follow segment = .ok ⟨place.segments ++ [segment], false⟩ := by
  rw [follow, if_neg (not_or.2 ⟨h.1, h.2.1⟩), if_neg h.2.2]

/-- Where a segment leads does not depend on how the path looked before. -/
theorem Place.follow_congr {a b : Place} (h : a.segments = b.segments) (segment : String) :
    a.follow segment = b.follow segment := by
  simp only [follow, h]

theorem Place.follow_eq_ok {place next : Place} {segment : String}
    (h : place.follow segment = .ok next) :
    ((segment = "" ∨ segment = ".") ∧ next = ⟨place.segments, true⟩) ∨
      (segment = ".." ∧ place.segments ≠ [] ∧ next = ⟨place.segments.dropLast, true⟩) ∨
        (IsEntry segment ∧ next = ⟨place.segments ++ [segment], false⟩) := by
  rcases segment_cases segment with hhere | rfl | hentry
  · rw [follow_here hhere] at h
    exact .inl ⟨hhere, (Except.ok.inj h).symm⟩
  · rw [follow_above] at h
    split at h
    · cases h
    next hne => exact .inr (.inl ⟨rfl, hne, (Except.ok.inj h).symm⟩)
  · rw [follow_entry hentry] at h
    exact .inr (.inr ⟨hentry, (Except.ok.inj h).symm⟩)

theorem Place.mem_follow {place next : Place} {segment : String}
    (h : place.follow segment = .ok next) :
    ∀ s ∈ next.segments, s ∈ place.segments ∨ s = segment ∧ IsEntry s := by
  rcases Place.follow_eq_ok h with ⟨-, rfl⟩ | ⟨-, -, rfl⟩ | ⟨hentry, rfl⟩
  · exact fun s hs => .inl hs
  · exact fun s hs => .inl (List.dropLast_subset _ hs)
  · intro s hs
    rcases List.mem_append.1 hs with hs | hs
    · exact .inl hs
    · obtain rfl := List.mem_singleton.1 hs
      exact .inr ⟨rfl, hentry⟩

/-- The segments of a place as they are printed: behind a directory there is an empty one. -/
def Place.written (place : Place) : List String :=
  place.segments ++ if place.isDirectory then [""] else []

theorem Place.mem_written {place : Place} {s : String} (h : s ∈ place.written) :
    s ∈ place.segments ∨ s = "" := by
  rw [written] at h
  split at h
  · simpa using h
  · exact .inl (by simpa using h)

theorem Place.written_ne_nil_of_follow {place next : Place} {segment : String}
    (h : place.follow segment = .ok next) : next.written ≠ [] := by
  rcases Place.follow_eq_ok h with ⟨-, rfl⟩ | ⟨-, -, rfl⟩ | ⟨-, rfl⟩ <;> simp [written]

/-! ## Many segments -/

section

variable {segments : List String} {place last : Place}

theorem foldlM_follow_cons {segment : String} {rest : List String}
    (h : (segment :: rest).foldlM Place.follow place = .ok last) :
    ∃ next, place.follow segment = .ok next ∧ rest.foldlM Place.follow next = .ok last := by
  rw [List.foldlM_cons] at h
  cases hnext : place.follow segment with
  | error rejection =>
      rw [hnext] at h
      cases h
  | ok next =>
      rw [hnext] at h
      exact ⟨next, rfl, h⟩

theorem mem_foldlM_follow (h : segments.foldlM Place.follow place = .ok last) :
    ∀ s ∈ last.segments, s ∈ place.segments ∨ s ∈ segments ∧ IsEntry s := by
  induction segments generalizing place with
  | nil =>
      cases h
      exact fun s hs => .inl hs
  | cons segment rest ih =>
      obtain ⟨next, hnext, hrest⟩ := foldlM_follow_cons h
      intro s hs
      rcases ih hrest s hs with hs | ⟨hs, hentry⟩
      · rcases Place.mem_follow hnext s hs with hs | ⟨rfl, hentry⟩
        · exact .inl hs
        · exact .inr ⟨by simp, hentry⟩
      · exact .inr ⟨List.mem_cons_of_mem _ hs, hentry⟩

theorem written_ne_nil_of_foldlM (hne : segments ≠ [])
    (h : segments.foldlM Place.follow place = .ok last) : last.written ≠ [] := by
  induction segments generalizing place with
  | nil => exact absurd rfl hne
  | cons segment rest ih =>
      obtain ⟨next, hnext, hrest⟩ := foldlM_follow_cons h
      cases rest with
      | nil =>
          cases hrest
          exact Place.written_ne_nil_of_follow hnext
      | cons second more => exact ih (by simp) hrest

end

/-! ## Climbing -/

def descents (segments : List String) : Nat :=
  segments.countP (fun segment => decide (IsEntry segment))

def ascents (segments : List String) : Nat :=
  segments.count ".."

/-- Some start of the segments leads further up than to the root, from a directory that lies `depth`
levels below it. -/
def Climbs (depth : Nat) (segments : List String) : Prop :=
  ∃ front, front <+: segments ∧ depth + descents front < ascents front

instance (depth : Nat) (segments : List String) : Decidable (Climbs depth segments) :=
  decidable_of_iff (∃ front ∈ segments.inits, depth + descents front < ascents front)
    (by simp only [List.mem_inits, Climbs])

theorem not_climbs_nil (depth : Nat) : ¬Climbs depth [] := by
  rintro ⟨front, hfront, hlt⟩
  rw [List.prefix_nil.1 hfront] at hlt
  exact Nat.not_lt_zero _ hlt

theorem climbs_cons {depth : Nat} {segment : String} {rest : List String} :
    Climbs depth (segment :: rest) ↔ ∃ front, front <+: rest ∧
      depth + descents (segment :: front) < ascents (segment :: front) := by
  constructor
  · rintro ⟨front, hfront, hlt⟩
    rcases List.prefix_cons_iff.1 hfront with rfl | ⟨more, rfl, hmore⟩
    · exact absurd hlt (Nat.not_lt_zero _)
    · exact ⟨more, hmore, hlt⟩
  · rintro ⟨front, hfront, hlt⟩
    exact ⟨segment :: front, List.cons_prefix_cons.2 ⟨rfl, hfront⟩, hlt⟩

theorem climbs_here {depth : Nat} {segment : String} (h : segment = "" ∨ segment = ".")
    (rest : List String) : Climbs depth (segment :: rest) ↔ Climbs depth rest := by
  have hcounts : ∀ front, descents (segment :: front) = descents front ∧
      ascents (segment :: front) = ascents front := by
    intro front
    rcases h with rfl | rfl
    · exact ⟨List.countP_cons_of_neg (by decide), List.count_cons_of_ne (by decide)⟩
    · exact ⟨List.countP_cons_of_neg (by decide), List.count_cons_of_ne (by decide)⟩
  rw [climbs_cons]
  simp only [hcounts, Climbs]

theorem climbs_entry {depth : Nat} {segment : String} (h : IsEntry segment) (rest : List String) :
    Climbs depth (segment :: rest) ↔ Climbs (depth + 1) rest := by
  have hcounts : ∀ front, descents (segment :: front) = descents front + 1 ∧
      ascents (segment :: front) = ascents front := fun front =>
    ⟨List.countP_cons_of_pos (by simpa using h), List.count_cons_of_ne h.2.2⟩
  rw [climbs_cons]
  simp only [hcounts, Climbs, Nat.add_right_comm depth 1, Nat.add_assoc depth _ 1]

theorem counts_above (front : List String) :
    descents (".." :: front) = descents front ∧ ascents (".." :: front) = ascents front + 1 :=
  ⟨List.countP_cons_of_neg (by decide), List.count_cons_self⟩

theorem climbs_above_zero (rest : List String) : Climbs 0 (".." :: rest) := by
  refine climbs_cons.2 ⟨[], List.nil_prefix, ?_⟩
  decide

theorem climbs_above_succ (depth : Nat) (rest : List String) :
    Climbs (depth + 1) (".." :: rest) ↔ Climbs depth rest := by
  rw [climbs_cons]
  simp only [counts_above, Climbs]
  constructor
  · rintro ⟨front, hfront, hlt⟩
    exact ⟨front, hfront, by omega⟩
  · rintro ⟨front, hfront, hlt⟩
    exact ⟨front, hfront, by omega⟩

/-- **Following segments fails exactly where they climb out of the root.** -/
theorem foldlM_follow_eq_error_iff {segments : List String} {place : Place}
    {rejection : Rejection} :
    segments.foldlM Place.follow place = .error rejection ↔
      rejection = .traversal ∧ Climbs place.segments.length segments := by
  -- Every segment changes the directories that are left and the depth from which the rest climbs by
  -- the same amount.
  induction segments generalizing place with
  | nil =>
      constructor
      · intro h
        cases h
      · rintro ⟨-, hclimbs⟩
        exact absurd hclimbs (not_climbs_nil _)
  | cons segment rest ih =>
      rw [List.foldlM_cons]
      rcases segment_cases segment with hhere | rfl | hentry
      · rw [Place.follow_here hhere, climbs_here hhere]
        exact ih
      · rw [Place.follow_above]
        cases hsegments : place.segments with
        | nil =>
            rw [if_pos rfl, List.length_nil]
            constructor
            · intro h
              cases h
              exact ⟨rfl, climbs_above_zero rest⟩
            · rintro ⟨rfl, -⟩
              rfl
        | cons first more =>
            have hlength : (first :: more).dropLast.length = more.length := by simp
            rw [if_neg (by simp), List.length_cons, climbs_above_succ, ← hlength]
            exact ih
      · have hlength : (place.segments ++ [segment]).length = place.segments.length + 1 := by simp
        rw [Place.follow_entry hentry, climbs_entry hentry, ← hlength]
        exact ih

/-! ## Whole paths -/

/-- The place in which a walk ends: the root is no directory. -/
def Place.close (place : Place) : Place :=
  { place with isDirectory := place.isDirectory && !place.segments.isEmpty }

theorem walk_of_segmentsOf {path : String} {segments : List String}
    (h : segmentsOf path = .ok segments) (base : List String) :
    walk base path = (segments.foldlM Place.follow ⟨base, false⟩).map Place.close := by
  rw [walk, h]
  rfl

/-- A walk that ends follows all segments of its path. -/
theorem exists_last_of_walk {base : List String} {path : String} {place : Place}
    (h : walk base path = .ok place) :
    ∃ segments last, segmentsOf path = .ok segments ∧
      segments.foldlM Place.follow ⟨base, false⟩ = .ok last ∧ place = last.close := by
  cases hsegments : segmentsOf path with
  | error rejection =>
      rw [walk, hsegments] at h
      cases h
  | ok segments =>
      rw [walk_of_segmentsOf hsegments] at h
      cases hlast : segments.foldlM Place.follow ⟨base, false⟩ with
      | error rejection =>
          rw [hlast] at h
          cases h
      | ok last =>
          rw [hlast] at h
          exact ⟨segments, last, rfl, hlast, (Except.ok.inj h).symm⟩

/-- A walk adds entries that its path names, and no others. -/
theorem mem_walk {base : List String} {path : String} {place : Place}
    (h : walk base path = .ok place) :
    ∀ s ∈ place.segments,
      s ∈ base ∨ IsEntry s ∧ ∀ c ∈ s.toList, Address.isSlash c = false := by
  obtain ⟨segments, last, hsegments, hlast, rfl⟩ := exists_last_of_walk h
  intro s hs
  rcases mem_foldlM_follow hlast s hs with hs | ⟨hs, hentry⟩
  · exact .inl hs
  · exact .inr ⟨hentry, isSlash_of_mem_segmentsOf hsegments s hs⟩

/-- **A path that goes on behind a slash is followed in two walks**: the second one starts where
the first one ended. -/
theorem walk_append_slash {base : List String} {front : String} {place : Place}
    (h : walk base front = .ok place) (back : String) :
    walk base (front ++ "/" ++ back) = walk place.segments back := by
  obtain ⟨segments, last, hfront, hlast, rfl⟩ := exists_last_of_walk h
  have hwhole := segmentsOf_append_slash hfront back
  cases hback : segmentsOf back with
  | error rejection =>
      rw [hback] at hwhole
      rw [walk, walk, hwhole, hback]
      rfl
  | ok more =>
      -- Whether the first walk ended in a directory is forgotten at the next segment, and there is one.
      obtain ⟨next, rest, rfl⟩ := List.exists_cons_of_ne_nil (segmentsOf_ne_nil hback)
      rw [hback] at hwhole
      have hrest : (next :: rest).foldlM Place.follow last =
          (next :: rest).foldlM Place.follow ⟨last.segments, false⟩ := by
        have hnext : last.follow next = (Place.mk last.segments false).follow next :=
          Place.follow_congr rfl next
        rw [List.foldlM_cons, List.foldlM_cons, hnext]
      rw [walk_of_segmentsOf hwhole, walk_of_segmentsOf hback, List.foldlM_append, hlast]
      exact congrArg (Except.map Place.close) hrest

end SafeReadme.Repository
