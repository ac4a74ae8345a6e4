import SafeReadme.Proofs.Repository.RawRoot

/-!
# A raw URL stays in its repository

A reader keeps all segments of a raw URL, since none of them is a dot segment, and the suffix of the
link cannot change what stands before it. So the URL leads below the raw root of the forge, whatever
the link was.
-/

namespace SafeReadme.Coordinate

open Url

/-! ## Below the raw root -/

/-- A segment as a reader shows it that is given its encoding. -/
def shownSegment (segment : String) : String :=
  Address.escapeSegment (Repository.encodeSegment segment).toList

theorem map_names {root : List String} (h : ∀ s ∈ root, isName s = true) :
    root.map Repository.encodeSegment = root ∧ root.map shownSegment = root := by
  have hencode : ∀ s ∈ root, Repository.encodeSegment s = id s :=
    fun s hs => encodeSegment_name (h s hs)
  have hshow : ∀ s ∈ root, shownSegment s = id s := by
    intro s hs
    rw [shownSegment, encodeSegment_name (h s hs), escapeSegment_name (h s hs), id]
  rw [List.map_congr_left hencode, List.map_congr_left hshow, List.map_id]
  exact ⟨rfl, rfl⟩

theorem rootPath_append {r : Coordinate} {root inside : List String} (hroot : root ≠ [])
    (hnames : ∀ s ∈ root, isName s = true)
    (hrootPath : r.rootPath = "/" ++ Text.joinWith "/" root ++ "/") (hinside : inside ≠ []) :
    r.rootPath ++ Text.joinWith "/" (inside.map Repository.encodeSegment) =
      "/" ++ Text.joinWith "/" ((root ++ inside).map Repository.encodeSegment) := by
  have hne : inside.map Repository.encodeSegment ≠ [] := by simpa using hinside
  rw [hrootPath, List.map_append, (map_names hnames).1, Text.joinWith, Text.joinWith, Text.joinWith,
    String.intercalate_append_of_ne_nil hroot hne]
  simp only [String.append_assoc]

theorem readPath_encoded {segments : List String} (hne : segments ≠ [])
    (h : ∀ s ∈ segments, IsOrdinary s) :
    Address.readPath
        ('/' :: (Text.joinWith "/" (segments.map Repository.encodeSegment)).toList) =
      segments.map shownSegment := by
  have hparts : segments.map Repository.encodeSegment ≠ [] := by simpa using hne
  rw [Address.readPath_joinWith hparts, List.map_map]
  · rfl
  · intro part hpart
    obtain ⟨s, -, rfl⟩ := List.mem_map.1 hpart
    exact Repository.isSlash_encodeSegment s
  · intro part hpart
    obtain ⟨s, hs, rfl⟩ := List.mem_map.1 hpart
    exact Repository.encodeSegment_ordinary (h s hs)

/-- Whatever ordinary segments follow the raw root, and whatever follows them, the address that is
read has the host of the root, and the names of its path in front. -/
theorem Made.parse?_below {r : Coordinate} (h : r.Made) :
    ∃ found port root, root ≠ [] ∧ r.rootPath = "/" ++ Text.joinWith "/" root ++ "/" ∧
      (∀ a : Address, a.host = found → a.port = port → a.authority = r.site) ∧
      ∀ (text : String) (inside : List String) (suffix : List Char), inside ≠ [] →
        (∀ s ∈ inside, IsOrdinary s) → (∀ c ∈ suffix.head?, c = '?' ∨ c = '#') →
        (canonical text).toList = (r.rawRoot ++
          Text.joinWith "/" (inside.map Repository.encodeSegment)).toList ++ suffix →
        ∃ query fragment, Address.parse? text = some ⟨"https", "", "", found, port,
          root ++ inside.map shownSegment, query, fragment⟩ := by
  obtain ⟨hsiteNe, hsite, found, port, hfound, hauthority⟩ := h.authority_site
  obtain ⟨root, hroot, hnames, hrootPath⟩ := h.exists_rootPath
  refine ⟨found, port, root, hroot, hrootPath, hauthority, ?_⟩
  intro text inside suffix hinside hordinary hsuffix hread
  have hall : ∀ s ∈ root ++ inside, IsOrdinary s := by
    intro s hs
    rcases List.mem_append.1 hs with hs | hs
    · exact isOrdinary_name (hnames s hs)
    · exact hordinary s hs
  -- Names are their own encodings, so the whole path is one list of encoded segments.
  have hpath := rootPath_append hroot hnames hrootPath hinside
  have hslash : "/".toList = ['/'] := rfl
  have hwritten : (canonical text).toList = "https://".toList ++ (r.site.toList ++
      '/' :: ((Text.joinWith "/" ((root ++ inside).map Repository.encodeSegment)).toList ++
        suffix)) := by
    rw [hread, rawRoot_eq_site, String.append_assoc, hpath, String.toList_append,
      String.toList_append, String.toList_append, hslash, List.append_assoc, List.append_assoc,
      List.append_assoc, List.singleton_append]
  have hends : ∀ c ∈ (Text.joinWith "/" ((root ++ inside).map Repository.encodeSegment)).toList,
      c ≠ '?' ∧ c ≠ '#' := by
    intro c hc
    rcases Text.mem_joinWith_slash hc with rfl | ⟨part, hpart, hc⟩
    · decide
    · obtain ⟨s, -, rfl⟩ := List.mem_map.1 hpart
      exact Repository.encodeSegment_ne_suffix s c hc
  obtain ⟨query, fragment, hparse⟩ := Address.parse?_https hwritten hsiteNe hsite hends hsuffix
  have hne : root ++ inside ≠ [] := by simp [hroot]
  refine ⟨query, fragment, ?_⟩
  rw [hparse, hfound, Option.map_some, readPath_encoded hne hall, List.map_append,
    (map_names hnames).2]

/-! ## The raw URL -/

theorem head_splitSuffix (link : String) :
    ∀ c ∈ (splitSuffix link).2.toList.head?, c = '?' ∨ c = '#' := by
  intro c hc
  have hdrop : (splitSuffix link).2.toList = link.toList.dropWhile (fun c => !startsSuffix c) := by
    rw [splitSuffix, List.span_eq_takeWhile_dropWhile, String.toList_ofList]
  rw [hdrop] at hc
  have hstops := head_dropWhile c hc
  rw [Bool.not_eq_false', startsSuffix, Bool.or_eq_true, beq_iff_eq, beq_iff_eq] at hstops
  exact hstops

/-- What is taken away from a raw URL is taken from its suffix. -/
theorem Made.canonical_rawUrl {r : Coordinate} (h : r.Made) {joined : String}
    (hjoined : ∀ c ∈ joined.toList, 0x20 < c.toNat) {suffix : String}
    (hsuffix : ∀ c ∈ suffix.toList.head?, c = '?' ∨ c = '#') :
    ∃ rest, (canonical (r.rawRoot ++ joined ++ suffix)).toList = (r.rawRoot ++ joined).toList ++ rest ∧
      ∀ c ∈ rest.head?, c = '?' ∨ c = '#' := by
  have htext : r.rawRoot ++ joined ++ suffix =
      String.ofList ((r.rawRoot ++ joined).toList ++ suffix.toList) := by
    rw [String.ofList_append, String.ofList_toList, String.ofList_toList]
  have hroot : (r.rawRoot ++ joined).toList = r.rawRoot.toList ++ joined.toList :=
    String.toList_append
  cases hchars : suffix.toList with
  | nil =>
      have hclean : IsClean (r.rawRoot.toList ++ joined.toList ++ []) :=
        h.isClean_append hjoined (by simp) (by simp)
      rw [List.append_nil] at hclean
      refine ⟨[], ?_, by simp⟩
      rw [htext, hchars, hroot, List.append_nil,
        (canonical_eq_self_iff _).2 (by rwa [String.toList_ofList]), String.toList_ofList]
  | cons c more =>
      have hc : c = '?' ∨ c = '#' := hsuffix c (by rw [hchars]; rfl)
      have hvisible : isTabOrNewline c = false ∧ isControlOrSpace c = false := by
        rcases hc with rfl | rfl <;> decide
      have hclean : IsClean (r.rawRoot.toList ++ joined.toList ++ [c]) :=
        h.isClean_append hjoined (by simp [hvisible]) (by simp [hvisible])
      obtain ⟨rest, hrest⟩ := canonical_append hclean (by simp) more
      refine ⟨c :: rest, ?_, by simpa using hc⟩
      rw [htext, hchars, hroot, ← List.singleton_append, ← List.append_assoc, hrest,
        List.append_assoc]
      rfl

theorem Made.canonical_rawRoot {r : Coordinate} (h : r.Made) :
    (canonical r.rawRoot).toList =
      (r.rawRoot ++ Text.joinWith "/" ([""].map Repository.encodeSegment)).toList ++ [] := by
  have hnone : ∀ c ∈ "".toList, 0x20 < c.toNat := by simp
  have hclean : IsClean (r.rawRoot.toList ++ "".toList ++ []) :=
    h.isClean_append hnone (by simp) (by simp)
  have hroot : IsClean r.rawRoot.toList := by simpa using hclean
  have hempty : Text.joinWith "/" ([""].map Repository.encodeSegment) = "" := by decide
  rw [(canonical_eq_self_iff _).2 hroot, hempty, String.append_empty, List.append_nil]

theorem pathText_below {r : Coordinate} {root below : List String} (hroot : root ≠ [])
    (hrootPath : r.rootPath = "/" ++ Text.joinWith "/" root ++ "/") (hbelow : below ≠ []) :
    "/" ++ Text.joinWith "/" (root ++ below) = r.rootPath ++ Text.joinWith "/" below := by
  rw [hrootPath, Text.joinWith, Text.joinWith, Text.joinWith,
    String.intercalate_append_of_ne_nil hroot hbelow]
  simp only [String.append_assoc]

/-- **A raw URL stays below the raw root.** Whatever the link is, the URL that it is resolved to is
read as an address with the scheme `https`, without user information, with the host and the port of
the raw root, and its path without dot segments starts with the path of the raw root. -/
theorem Made.rawUrl_below_rawRoot {r : Coordinate} (hmade : r.Made) {link url : String}
    {fromRoot : Bool} (h : r.rawUrl link fromRoot = .ok url) :
    ∃ address root, Address.parse? url = some address ∧ Address.parse? r.rawRoot = some root ∧
      address.scheme = "https" ∧ address.username = "" ∧ address.password = "" ∧
      address.host = root.host ∧ address.port = root.port ∧ address.authority = r.site ∧
      (∀ host, r.forge = .other host → address.authority = r.host) ∧
      root.pathText = r.rootPath ∧ ∃ below, address.pathText = r.rootPath ++ below := by
  obtain ⟨found, port, root, hroot, hrootPath, hauthority, hread⟩ := hmade.parse?_below
  obtain ⟨joined, hjoin, rfl⟩ := rawUrl_eq h
  have hbase : ∀ s ∈ (if fromRoot then [] else r.base), IsOrdinary s := by
    cases fromRoot with
    | false => exact hmade.base_ordinary
    | true => simp
  obtain ⟨inside, hinside, hordinary, hjoined⟩ := Repository.exists_print hjoin hbase
  obtain ⟨suffix, hurl, hsuffix⟩ := hmade.canonical_rawUrl
    (fun c hc => Repository.join_visible hjoin hc) (head_splitSuffix link)
  subst hjoined
  have hempty : ∀ s ∈ [""], IsOrdinary s := by
    intro s hs
    obtain rfl := List.mem_singleton.1 hs
    exact ⟨by decide, by decide⟩
  obtain ⟨query, fragment, haddress⟩ := hread _ inside suffix hinside hordinary hsuffix hurl
  obtain ⟨_, _, hrootAddress⟩ :=
    hread r.rawRoot [""] [] (by simp) hempty (by simp) hmade.canonical_rawRoot
  have hmap : inside.map shownSegment ≠ [] := by simpa using hinside
  have hlast : shownSegment "" = "" := by decide
  refine ⟨_, _, haddress, hrootAddress, rfl, rfl, rfl, rfl, rfl, hauthority _ rfl rfl, ?_, ?_, ?_⟩
  · intro host hforge
    rw [hauthority _ rfl rfl]
    exact r.site_of_other hforge
  · rw [Address.pathText, pathText_below hroot hrootPath (by simp), List.map_singleton, hlast,
      Text.joinWith, String.intercalate_singleton, String.append_empty]
  · exact ⟨_, pathText_below hroot hrootPath hmap⟩

/-- A link with a backslash, an encoded slash, dots that are encoded once and twice, and a query that
looks like a path. -/
theorem Made.rawUrl_below_rawRoot_encoded :
    let r : Coordinate := ⟨"git.example:8443", "o/r", ["docs"]⟩
    let url := "https://git.example:8443/o/r/raw/HEAD/docs/%252e%252e/.../y?q=/../#z"
    r.Made ∧ r.rawUrl "x\\..%2F%252e%252E/../%252e%252e/%2E%2e./y?q=/../#z" false = .ok url ∧
      ∃ address, Address.parse? url = some address ∧ address.scheme = "https" ∧
        address.authority = "git.example:8443" ∧
        ∃ below, address.pathText = "/o/r/raw/HEAD/" ++ below := by
  intro r url
  have hmade : r.Made := ⟨"Git.Example:8443", "o/r.git", "docs/", by decide +kernel⟩
  have hraw : r.rawUrl "x\\..%2F%252e%252E/../%252e%252e/%2E%2e./y?q=/../#z" false = .ok url := by
    decide +kernel
  obtain ⟨address, -, hparse, -, hscheme, -, -, -, -, hauthority, -, -, below, hbelow⟩ :=
    hmade.rawUrl_below_rawRoot hraw
  have hsite : r.site = "git.example:8443" := by decide +kernel
  have hroot : r.rootPath = "/o/r/raw/HEAD/" := by decide +kernel
  exact ⟨hmade, hraw, address, hparse, hscheme, hauthority.trans hsite, below, hroot ▸ hbelow⟩

end SafeReadme.Coordinate
