import SafeReadme.Proofs.Repository.BasePath
import SafeReadme.Proofs.Url.Reference

/-!
# Links as relative references

A walk keeps a list of directories and whether the path ends like one; the generic syntax of addresses
keeps an output buffer. Both are one pass over the same segments, and where the path has no empty
segment inside and does not leave the repository, they end with the same segments.
-/

namespace SafeReadme

open Url

namespace Repository

/-! ## One pass over the segments -/

theorem toList_ne_dots {segment : String} (h : IsOrdinary segment) :
    segment.toList ≠ ['.'] ∧ segment.toList ≠ ['.', '.'] := by
  constructor
  · exact fun heq => h.1 (String.toList_inj.1 heq)
  · exact fun heq => h.2 (String.toList_inj.1 heq)

section

variable (front : List (List Char)) {place next : Place} {segment : String}

theorem dropLast_append_segments (h : place.segments ≠ []) :
    (front ++ place.segments.map String.toList).dropLast =
      front ++ place.segments.dropLast.map String.toList := by
  rw [List.dropLast_append_of_ne_nil (by simpa using h), List.map_dropLast]

theorem settle_follow (h : place.follow segment = .ok next) (hempty : segment ≠ "")
    {rest : List (List Char)} (hrest : rest ≠ []) :
    Reference.settle (front ++ place.segments.map String.toList) (segment.toList :: rest) =
      Reference.settle (front ++ next.segments.map String.toList) rest := by
  rcases Place.follow_eq_ok h with ⟨rfl | rfl, rfl⟩ | ⟨rfl, hplace, rfl⟩ | ⟨hentry, rfl⟩
  · exact absurd rfl hempty
  · exact Reference.settle_dot _ hrest
  · rw [← dropLast_append_segments front hplace]
    exact Reference.settle_dots _ hrest
  · obtain ⟨hdot, hdots⟩ := toList_ne_dots hentry.2
    rw [Reference.settle_other _ hdot hdots, List.map_append, List.append_assoc]
    rfl

/-- At the last segment it shows whether the path ends like a directory. -/
theorem settle_follow_last (h : place.follow segment = .ok next) :
    Reference.settle (front ++ place.segments.map String.toList) [segment.toList] =
      front ++ next.written.map String.toList := by
  have hdirectory : ∀ segments : List String, front ++ segments.map String.toList ++ [[]] =
      front ++ (Place.mk segments true).written.map String.toList := by
    intro segments
    simp [Place.written]
  rcases Place.follow_eq_ok h with ⟨rfl | rfl, rfl⟩ | ⟨rfl, hplace, rfl⟩ | ⟨hentry, rfl⟩
  · exact hdirectory place.segments
  · exact hdirectory place.segments
  · have hlast := Reference.settle_dots_last (front ++ place.segments.map String.toList)
    rw [dropLast_append_segments front hplace] at hlast
    exact hlast.trans (hdirectory place.segments.dropLast)
  · obtain ⟨hdot, hdots⟩ := toList_ne_dots hentry.2
    rw [Reference.settle_other _ hdot hdots, Reference.settle]
    simp [Place.written]

end

/-- **A walk goes as dot segments are removed.** The pass may have any segments in front of those of
the place; it never comes back to them. -/
theorem settle_foldlM_follow (front : List (List Char)) {segments : List String} {place last : Place}
    (hne : segments ≠ []) (hempty : "" ∉ segments.dropLast)
    (h : segments.foldlM Place.follow place = .ok last) :
    Reference.settle (front ++ place.segments.map String.toList) (segments.map String.toList) =
      front ++ last.written.map String.toList := by
  induction segments generalizing place with
  | nil => exact absurd rfl hne
  | cons segment rest ih =>
      obtain ⟨next, hnext, hrest⟩ := foldlM_follow_cons h
      -- Only behind the last segment the two differ in what they keep of a directory.
      cases rest with
      | nil =>
          cases hrest
          exact settle_follow_last front hnext
      | cons second more =>
          rw [List.dropLast_cons_cons, List.mem_cons, not_or] at hempty
          rw [List.map_cons, settle_follow front hnext (Ne.symm hempty.1) (by simp)]
          exact ih (by simp) hempty.2 hrest

/-! ## What is printed -/

def encodePath (path : String) : String :=
  Text.joinWith "/" ((Text.splitAt '/' path).map encodeSegment)

theorem encodePath_joinWith {parts : List String} (hne : parts ≠ [])
    (h : ∀ part ∈ parts, '/' ∉ part.toList) :
    encodePath (Text.joinWith "/" parts) = Text.joinWith "/" (parts.map encodeSegment) := by
  rw [encodePath, Text.splitAt_joinWith hne h]

theorem encodeSegment_eq_empty_iff {segment : String} : encodeSegment segment = "" ↔ segment = "" := by
  have hempty : encodeSegment "" = "" := by decide
  constructor
  · intro h
    have hcodes : segment.toList.flatMap (code mustEscape) = [] := by
      rw [← toList_encode, ← encodeSegment, h]
      rfl
    exact String.toList_eq_nil_iff.1 (eq_nil_of_flatMap_code hcodes)
  · rintro rfl
    exact hempty

theorem getLast?_map_encodeSegment (parts : List String) :
    (parts.map encodeSegment).getLast? = some "" ↔ parts.getLast? = some "" := by
  rw [List.getLast?_map, Option.map_eq_some_iff]
  simp only [encodeSegment_eq_empty_iff, exists_eq_right]

/-! ## Plain paths -/

section

variable {path : String}

theorem segmentsOf_plain (h : ∀ c ∈ path.toList, c ≠ '%' ∧ c ≠ '\\' ∧ c ≠ '\x00') :
    segmentsOf path = .ok (Text.splitAt '/' path) := by
  have hpercent : '%' ∉ path.toList := fun hmem => (h _ hmem).1 rfl
  have hnul : '\x00' ∉ path.toList := fun hmem => (h _ hmem).2.2 rfl
  have hfields : Text.fields (fun c => c == '/' || c == '\\') path.toList =
      Text.fields (· == '/') path.toList := by
    apply Text.fields_congr
    intro c hc
    simp [(h c hc).2.1]
  rw [segmentsOf_of_decodes (decodes_self hpercent), if_neg hnul]
  exact congrArg (fun fields => Except.ok (fields.map String.ofList)) hfields

/-- A plain path that does not climb is resolved, behind any directory that names the base of the
walk, to what the walk ends in. -/
theorem resolve_foldlM_follow {directory : String} {root base : List String} {last : Place}
    (hroot : ∀ s ∈ root, IsOrdinary s ∧ '/' ∉ s.toList)
    (hbase : ∀ s ∈ base, IsOrdinary s ∧ '/' ∉ s.toList)
    (hdirectory : directory.toList.getLast? = some '/')
    (htext : directory ++ path =
      "/" ++ Text.joinWith "/" (root ++ (base ++ Text.splitAt '/' path)))
    (hne : Text.splitAt '/' path ≠ []) (hempty : "" ∉ (Text.splitAt '/' path).dropLast)
    (h : (Text.splitAt '/' path).foldlM Place.follow ⟨base, false⟩ = .ok last) :
    Reference.resolve directory path = "/" ++ Text.joinWith "/" (root ++ last.written) := by
  have hsettle := settle_foldlM_follow (root.map String.toList) hne hempty h
  have hwritten : last.written ≠ [] := written_ne_nil_of_foldlM hne h
  have hslash : ∀ s ∈ (root ++ (base ++ Text.splitAt '/' path)).map String.toList, '/' ∉ s := by
    intro s hs
    obtain ⟨segment, hsegment, rfl⟩ := List.mem_map.1 hs
    simp only [List.mem_append] at hsegment
    rcases hsegment with hmem | hmem | hmem
    · exact (hroot _ hmem).2
    · exact (hbase _ hmem).2
    · exact Text.not_mem_of_mem_splitAt hmem
  have hkept : ∀ s ∈ (root ++ base).map String.toList, s ≠ ['.'] ∧ s ≠ ['.', '.'] := by
    intro s hs
    obtain ⟨segment, hsegment, rfl⟩ := List.mem_map.1 hs
    rcases List.mem_append.1 hsegment with hmem | hmem
    · exact toList_ne_dots (hroot _ hmem).1
    · exact toList_ne_dots (hbase _ hmem).1
  have hmerge : Reference.merge directory.toList path.toList =
      Reference.spell ((root ++ (base ++ Text.splitAt '/' path)).map String.toList) := by
    rw [Reference.merge_directory hdirectory, ← String.toList_append, htext,
      Reference.spell_map_toList (by simp [hne])]
  have hremove : Reference.removeDotSegments []
      (Reference.spell ((root ++ (base ++ Text.splitAt '/' path)).map String.toList)) =
        Reference.spell ((root ++ last.written).map String.toList) := by
    have hpass := Reference.removeDotSegments_spell hslash (List.forall_mem_nil _)
    rw [Reference.spell_nil] at hpass
    rw [hpass, ← List.append_assoc, List.map_append, Reference.settle_append hkept, List.nil_append,
      List.map_append, hsettle, List.map_append]
  rw [Reference.resolve, hmerge, hremove, Reference.spell_map_toList (by simp [hwritten]),
    String.ofList_toList]

end

end Repository

namespace Coordinate

open Repository

/-! ## The base of a document -/

theorem Made.base_entry {r : Coordinate} (h : r.Made) :
    ∀ s ∈ r.base, IsEntry s ∧ '/' ∉ s.toList := by
  obtain ⟨-, -, path, place, hwalk, hbase⟩ := h.parts
  intro s hs
  rw [hbase] at hs
  rcases mem_walk hwalk s hs with hs | ⟨hentry, hslash⟩
  · exact absurd hs List.not_mem_nil
  · refine ⟨hentry, fun hmem => ?_⟩
    cases hslash '/' hmem

theorem slash_not_mem_name {segment : String} (h : isName segment = true) :
    '/' ∉ segment.toList := by
  have hslash : isNameChar '/' = false := by decide
  intro hmem
  rw [mem_isNameChar h '/' hmem] at hslash
  cases hslash

theorem basePath_append {r : Coordinate} (h : ∀ s ∈ r.base, s ≠ "") {segments : List String}
    (hsegments : segments ≠ []) :
    r.basePath ++ Text.joinWith "/" segments = Text.joinWith "/" (r.base ++ segments) := by
  have hpath : r.basePath =
      if (Text.joinWith "/" r.base).isEmpty then Text.joinWith "/" r.base
      else Text.joinWith "/" r.base ++ "/" := rfl
  cases hbase : r.base with
  | nil =>
      rw [hpath, hbase]
      exact String.empty_append
  | cons first rest =>
      have hjoined : (Text.joinWith "/" (first :: rest)).isEmpty = false := by
        have hfirst : first ≠ "" := h first (by simp [hbase])
        cases rest with
        | nil => simpa [Text.joinWith] using hfirst
        | cons second more => simp [Text.joinWith, String.intercalate_cons_cons]
      rw [hpath, hbase, hjoined, if_neg (by decide), Text.joinWith, Text.joinWith, Text.joinWith,
        String.intercalate_append_of_ne_nil (by simp) hsegments]

/-- Behind a slash the base of a document is written as a directory. -/
theorem getLast?_basePath (r : Coordinate) {front : String}
    (h : front.toList.getLast? = some '/') :
    (front ++ r.basePath).toList.getLast? = some '/' := by
  rw [basePath]
  split
  next hempty =>
    rw [String.isEmpty_iff.1 hempty, String.append_empty]
    exact h
  · rw [← String.append_assoc, String.toList_append]
    exact List.getLast?_append

section

variable {r : Coordinate} (hmade : r.Made) {path : String} {last : Place}
  (hlast : (Text.splitAt '/' path).foldlM Place.follow ⟨r.base, false⟩ = .ok last)

include hmade hlast

theorem Made.slash_not_mem_written : ∀ s ∈ last.written, '/' ∉ s.toList := by
  intro s hs
  rcases Place.mem_written hs with hs | rfl
  · rcases mem_foldlM_follow hlast s hs with hs | ⟨hs, -⟩
    · exact (hmade.base_entry s hs).2
    · exact Text.not_mem_of_mem_splitAt hs
  · exact List.not_mem_nil

/-- A plain path leads to the same segments in the directory of the document, wherever the root of the
repository lies. -/
theorem Made.resolve_basePath {front : String} {root : List String}
    (hfront : front.toList.getLast? = some '/')
    (hroot : ∀ s ∈ root, IsOrdinary s ∧ '/' ∉ s.toList)
    (hbelow : ∀ parts : List String, parts ≠ [] →
      front ++ Text.joinWith "/" parts = "/" ++ Text.joinWith "/" (root ++ parts))
    (hne : Text.splitAt '/' path ≠ []) (hempty : "" ∉ (Text.splitAt '/' path).dropLast) :
    Reference.resolve (front ++ r.basePath) path = front ++ Text.joinWith "/" last.written := by
  have hbase : ∀ s ∈ r.base, IsOrdinary s ∧ '/' ∉ s.toList :=
    fun s hs => ⟨hmade.base_ordinary s hs, (hmade.base_entry s hs).2⟩
  -- The directory of the document and the path are one list of segments.
  have hpath : r.basePath ++ path = Text.joinWith "/" (r.base ++ Text.splitAt '/' path) := by
    rw [← basePath_append (fun s hs => (hmade.base_entry s hs).1.1) hne, Text.joinWith_splitAt]
  have htext : front ++ r.basePath ++ path =
      "/" ++ Text.joinWith "/" (root ++ (r.base ++ Text.splitAt '/' path)) := by
    rw [String.append_assoc, hpath, hbelow _ (by simp [hne])]
  rw [hbelow _ (written_ne_nil_of_foldlM hne hlast)]
  exact resolve_foldlM_follow hroot hbase (r.getLast?_basePath hfront) htext hne hempty hlast

end

theorem getLast?_encoded {r : Coordinate} {root inside : List String} (hroot : root ≠ [])
    (hnames : ∀ s ∈ root, isName s = true)
    (hrootPath : r.rootPath = "/" ++ Text.joinWith "/" root ++ "/") (hinside : inside ≠ [])
    (hslash : ∀ s ∈ inside, '/' ∉ s.toList) :
    (r.rootPath ++ Text.joinWith "/" (inside.map encodeSegment)).toList.getLast? = some '/' ↔
      (r.rootPath ++ Text.joinWith "/" inside).toList.getLast? = some '/' := by
  have hmeant : ∀ s ∈ root ++ inside, '/' ∉ s.toList := by
    intro s hs
    rcases List.mem_append.1 hs with hs | hs
    · exact slash_not_mem_name (hnames s hs)
    · exact hslash s hs
  have hencoded : ∀ s ∈ (root ++ inside).map encodeSegment, '/' ∉ s.toList := by
    intro s hs hmem
    obtain ⟨segment, -, rfl⟩ := List.mem_map.1 hs
    cases isSlash_encodeSegment segment '/' hmem
  rw [rootPath_append hroot hnames hrootPath hinside, ← pathText_below hroot hrootPath hinside,
    Reference.getLast?_joinWith (by simp [hroot]) hencoded,
    Reference.getLast?_joinWith (by simp [hroot]) hmeant, getLast?_map_encodeSegment]

/-! ## The raw URL -/

/-- **Links are resolved as relative references.** A path without escapes, backslashes, query and
fragment, with no empty segment before its last one and no start that climbs out of the repository,
is resolved by the generic syntax of addresses in the directory of the document to some path below
the root of the repository, wherever that root lies. The raw URL has this path, percent-encoded
segment by segment, behind the path of the raw root, and ends in a slash exactly if it does. -/
theorem Made.rawUrl_eq_reference {r : Coordinate} (hmade : r.Made) {path : String}
    (hplain : ∀ c ∈ path.toList, c ≠ '%' ∧ c ≠ '\\' ∧ c ≠ '\x00' ∧ c ≠ '?' ∧ c ≠ '#')
    (hempty : "" ∉ (Text.splitAt '/' path).dropLast)
    (hinside : ¬Climbs r.base.length (Text.splitAt '/' path)) :
    ∃ below, Reference.resolve ("/" ++ r.basePath) path = "/" ++ below ∧
      Reference.resolve (r.rootPath ++ r.basePath) path = r.rootPath ++ below ∧
      r.rawUrl path false = .ok ("https://" ++ r.site ++ (r.rootPath ++ encodePath below)) ∧
      ((r.rootPath ++ encodePath below).toList.getLast? = some '/' ↔
        (r.rootPath ++ below).toList.getLast? = some '/') := by
  obtain ⟨root, hroot, hnames, hrootPath⟩ := hmade.exists_rootPath
  have hsegments : segmentsOf path = .ok (Text.splitAt '/' path) :=
    segmentsOf_plain fun c hc => ⟨(hplain c hc).1, (hplain c hc).2.1, (hplain c hc).2.2.1⟩
  have hne : Text.splitAt '/' path ≠ [] := segmentsOf_ne_nil hsegments
  have hwalk := walk_of_segmentsOf hsegments r.base
  cases hlast : (Text.splitAt '/' path).foldlM Place.follow ⟨r.base, false⟩ with
  | error rejection => exact absurd (foldlM_follow_eq_error_iff.1 hlast).2 hinside
  | ok last =>
      rw [hlast] at hwalk
      have hjoin : join (r.start false) path = .ok last.close.print :=
        congrArg (Except.map Place.print) hwalk
      have hlink : IsSplit path path "" :=
        ⟨String.append_empty.symm, fun c hc => (hplain c hc).2.2.2, by simp⟩
      have hwritten : last.written ≠ [] := written_ne_nil_of_foldlM hne hlast
      have hslash := hmade.slash_not_mem_written hlast
      have hnamed : ∀ s ∈ root, IsOrdinary s ∧ '/' ∉ s.toList :=
        fun s hs => ⟨isOrdinary_name (hnames s hs), slash_not_mem_name (hnames s hs)⟩
      have hrootSlash : r.rootPath.toList.getLast? = some '/' := by
        rw [hrootPath, String.toList_append]
        exact List.getLast?_append
      have hencode : encodePath (Text.joinWith "/" last.written) =
          Text.joinWith "/" (last.written.map encodeSegment) := encodePath_joinWith hwritten hslash
      refine ⟨Text.joinWith "/" last.written, ?_, ?_, ?_, ?_⟩
      · have hnone : ∀ s ∈ ([] : List String), IsOrdinary s ∧ '/' ∉ s.toList :=
          List.forall_mem_nil _
        exact hmade.resolve_basePath hlast rfl hnone (fun parts _ => rfl) hne hempty
      · exact hmade.resolve_basePath hlast hrootSlash hnamed
          (fun parts hparts => (pathText_below hroot hrootPath hparts).symm) hne hempty
      · rw [hmade.rawUrl_eq_map hlink, hjoin, hencode, ← Place.print_close, rawRoot_eq_site]
        simp only [Except.map, String.append_empty, String.append_assoc]
      · rw [hencode]
        exact getLast?_encoded hroot hnames hrootPath hwritten hslash

/-- A path with a dot segment at its end, which goes up past the document, enters a directory with a
name that is escaped, and leaves another one. -/
theorem Made.rawUrl_eq_reference_directory :
    let r : Coordinate := ⟨"git.example", "o/r", ["docs", "é"]⟩
    let path := "../a b/c/.././x/.."
    r.Made ∧ (∀ c ∈ path.toList, c ≠ '%' ∧ c ≠ '\\' ∧ c ≠ '\x00' ∧ c ≠ '?' ∧ c ≠ '#') ∧
      "" ∉ (Text.splitAt '/' path).dropLast ∧ ¬Climbs 2 (Text.splitAt '/' path) ∧
      Reference.resolve "/docs/é/" path = "/docs/a b/" ∧
      r.rawUrl path false = .ok "https://git.example/o/r/raw/HEAD/docs/a%20b/" ∧
      ∃ below, Reference.resolve ("/" ++ r.basePath) path = "/" ++ below ∧
        r.rawUrl path false = .ok ("https://" ++ r.site ++ (r.rootPath ++ encodePath below)) := by
  intro r path
  have hmade : r.Made := ⟨"git.example", "o/r", "docs/%C3%A9", by decide +kernel⟩
  have hplain : ∀ c ∈ path.toList, c ≠ '%' ∧ c ≠ '\\' ∧ c ≠ '\x00' ∧ c ≠ '?' ∧ c ≠ '#' := by
    have hall : path.toList.all (fun c => !(['%', '\\', '\x00', '?', '#'].contains c)) = true := by
      decide +kernel
    intro c hc
    simpa using List.all_eq_true.1 hall c hc
  have hempty : "" ∉ (Text.splitAt '/' path).dropLast := by decide +kernel
  have hinside : ¬Climbs 2 (Text.splitAt '/' path) := by decide +kernel
  obtain ⟨below, hbelow, -, hraw, -⟩ := hmade.rawUrl_eq_reference hplain hempty hinside
  have hreference : Reference.resolve "/docs/é/" path = "/docs/a b/" := by decide +kernel
  exact ⟨hmade, hplain, hempty, hinside, hreference, by decide +kernel, below, hbelow, hraw⟩

end Coordinate

end SafeReadme
