import SafeReadme.Proofs.Policy.LoweredKeys
import SafeReadme.Proofs.Repository.JoinedPath

/-!
# Coordinates read again

A coordinate shows a host, a repository and a directory. The host is in the form in which it is read;
the repository has lost one `.git` and the directory is decoded, so these two are read back as they
are only if they look like nothing that reading takes away.
-/

namespace SafeReadme

open Url

/-! ## Trimmed text -/

namespace Text

theorem trimBy_eq_self {p : Char → Bool} {cs : List Char} (hhead : ∀ c ∈ cs.head?, p c = false)
    (hlast : ∀ c ∈ cs.getLast?, p c = false) : trimBy p cs = cs := by
  have htrim : trimBy p ([] ++ cs ++ []) = cs := trimBy_append (by simp) (by simp) hhead hlast
  rwa [List.nil_append, List.append_nil] at htrim

theorem trim_eq_self {s : String} (hhead : ∀ c ∈ s.toList.head?, isBlank c = false)
    (hlast : ∀ c ∈ s.toList.getLast?, isBlank c = false) : trim s = s := by
  rw [trim, trimBy_eq_self hhead hlast, String.ofList_toList]

end Text

namespace Coordinate

/-! ## The host -/

theorem isLowered_readHost {text host : String} (h : readHost text = .ok host) :
    IsLowered host := by
  simp only [readHost] at h
  split at h
  · cases h
  · split at h
    · cases h
    · split at h
      · cases h
      · split at h
        · obtain rfl := Except.ok.inj h
          exact isLowered_toLower _
        · cases h

/-- **A host is read back.** -/
theorem readHost_readHost {text host : String} (h : readHost text = .ok host) :
    readHost host = .ok host := by
  obtain ⟨hne, hinside, address, hparse, hauthority⟩ := readHost_spec h
  have hclass : ∀ c ∈ host.toList, Text.isBlank c = false ∧ (c == '/') = false := by
    intro c hc
    have hkept := hinside c hc
    simp only [isOutsideHost, Bool.or_eq_false_iff, List.contains_eq_mem, List.mem_cons,
      decide_eq_false_iff_not, not_or] at hkept
    exact ⟨hkept.2, by simpa using hkept.1.1⟩
  have htrim : Text.trim host = host :=
    Text.trim_eq_self (fun c hc => (hclass c (List.mem_of_head? hc)).1)
      (fun c hc => (hclass c (List.mem_of_getLast? hc)).1)
  have hslash := dropWhileEnd_append
    (fun c hc => (hclass c (List.mem_of_getLast? hc)).2) ([] : List Char)
  have hempty : Text.dropWhileEnd (· == '/') ([] : List Char) = [] := rfl
  have hname : (String.ofList (Text.dropWhileEnd (· == '/') (Text.trim host).toList)).toLower =
      host := by
    rw [List.append_nil, hempty, List.append_nil] at hslash
    rw [htrim, hslash, String.ofList_toList, (isLowered_readHost h).toLower_eq]
  have hany : host.toList.any isOutsideHost = false := by simpa using hinside
  simp only [readHost, hname, hany, hparse, hauthority, if_true]
  rw [if_neg (by simpa using hne)]
  rfl

/-! ## The repository -/

theorem withoutGit_append (front : List Char) : withoutGit (front ++ ".git".toList) = front := by
  have hreverse : (front ++ ".git".toList).reverse = "tig.".toList ++ front.reverse := by
    rw [List.reverse_append]
    rfl
  have hfind : "tig.".toList.isPrefixOf? (front ++ ".git".toList).reverse = some front.reverse :=
    List.isPrefixOf?_eq_some_iff_append_eq.2 hreverse.symm
  rw [withoutGit, hfind]
  exact List.reverse_reverse front

theorem withoutGit_of_not_suffix {cs : List Char} (h : ¬".git".toList <:+ cs) :
    withoutGit cs = cs := by
  rw [withoutGit]
  split
  next rest hfind =>
    have heq := List.isPrefixOf?_eq_some_iff_append_eq.1 hfind
    refine absurd ⟨rest.reverse, ?_⟩ h
    rw [← List.reverse_inj, ← heq, List.reverse_append, List.reverse_reverse]
    rfl
  · rfl

theorem IsOwnerRepo.ends {name : String} (h : IsOwnerRepo name) :
    name.toList ≠ [] ∧ (∀ c ∈ name.toList.head?, isNameChar c = true) ∧
      ∀ c ∈ name.toList.getLast?, isNameChar c = true := by
  have hempty : [] ∉ Text.fields (· == '/') name.toList := fun hmem =>
    absurd (h.2 "" (List.mem_map.2 ⟨[], hmem, rfl⟩)) (by decide)
  have hclass : ∀ c ∈ name.toList, c ≠ '/' → isNameChar c = true := by
    intro c hc hne
    rw [← Text.joinWith_splitAt name] at hc
    rcases Text.mem_joinWith_slash hc with hslash | ⟨part, hpart, hc⟩
    · exact absurd hslash hne
    · exact mem_isNameChar (h.2 part hpart) c hc
  -- A slash at one of the ends would have an empty field beside it.
  refine ⟨?_, fun c hc => ?_, fun c hc => ?_⟩
  · intro hnil
    rw [hnil] at hempty
    exact hempty List.mem_cons_self
  · refine hclass c (List.mem_of_head? hc) ?_
    rintro rfl
    obtain ⟨rest, hrest⟩ := List.head?_eq_some_iff.1 hc
    rw [hrest, Text.fields_cons] at hempty
    exact hempty List.mem_cons_self
  · refine hclass c (List.mem_of_getLast? hc) ?_
    rintro rfl
    obtain ⟨front, hfront⟩ := List.getLast?_eq_some_iff.1 hc
    rw [hfront, Text.fields_append rfl] at hempty
    exact hempty (List.mem_append_right _ List.mem_cons_self)

/-- From a text that starts and ends with characters of names, only `.git` is taken away. -/
theorem readOwnerRepo_of_ends {text name : String}
    (hhead : ∀ c ∈ text.toList.head?, isNameChar c = true)
    (hlast : ∀ c ∈ text.toList.getLast?, isNameChar c = true) :
    readOwnerRepo text = .ok name ↔ name.toList = withoutGit text.toList ∧ IsOwnerRepo name := by
  have hkept : ∀ c, isNameChar c = true → Text.isBlank c = false ∧ (c == '/') = false := by
    intro c hc
    have hcode := toNat_of_isNameChar hc
    constructor
    · simp only [Text.isBlank, Bool.or_eq_false_iff, Bool.and_eq_false_iff,
        decide_eq_false_iff_not, beq_eq_false_iff_ne]
      omega
    · rw [beq_eq_false_iff_ne]
      rintro rfl
      exact absurd hc (by decide)
  have htrim : Text.trim text = text :=
    Text.trim_eq_self (fun c hc => (hkept c (hhead c hc)).1) (fun c hc => (hkept c (hlast c hc)).1)
  have hslash : Text.trimBy (· == '/') text.toList = text.toList :=
    Text.trimBy_eq_self (fun c hc => (hkept c (hhead c hc)).2) (fun c hc => (hkept c (hlast c hc)).2)
  constructor
  · intro h
    refine ⟨?_, isOwnerRepo_of_readOwnerRepo h⟩
    simp only [readOwnerRepo, htrim, hslash, Text.joinWith_splitAt] at h
    split at h
    · cases h
    · rw [← Except.ok.inj h, String.toList_ofList]
  · rintro ⟨hname, hlength, hnames⟩
    have hall : (Text.splitAt '/' name).all isName = true := List.all_eq_true.2 hnames
    have hlong : decide ((Text.splitAt '/' name).length < 2) = false :=
      decide_eq_false (Nat.not_lt.2 hlength)
    simp only [readOwnerRepo, htrim, hslash, ← hname, String.ofList_toList, hlong, hall,
      Bool.not_true, Bool.or_self, Bool.false_eq_true, if_false, Text.joinWith_splitAt]

/-- **A repository is read back exactly if it does not end in `.git`.** -/
theorem readOwnerRepo_self_iff {name : String} (h : IsOwnerRepo name) :
    readOwnerRepo name = .ok name ↔ ¬".git".toList <:+ name.toList := by
  obtain ⟨-, hhead, hlast⟩ := h.ends
  rw [readOwnerRepo_of_ends hhead hlast]
  constructor
  · rintro ⟨hkept, -⟩ ⟨front, hfront⟩
    rw [← hfront, withoutGit_append] at hkept
    simp at hkept
  · exact fun hsuffix => ⟨(withoutGit_of_not_suffix hsuffix).symm, h⟩

/-- With `.git` behind it, every repository is read back. -/
theorem readOwnerRepo_append_git {name : String} (h : IsOwnerRepo name) :
    readOwnerRepo (name ++ ".git") = .ok name := by
  obtain ⟨hne, hhead, -⟩ := h.ends
  have hlast : ∀ c ∈ (some 't' : Option Char), isNameChar c = true := by
    rintro c ⟨rfl⟩
    decide
  have hchars : (name ++ ".git").toList = name.toList ++ ".git".toList := String.toList_append
  rw [readOwnerRepo_of_ends]
  · exact ⟨by rw [hchars, withoutGit_append], h⟩
  · rwa [hchars, List.head?_append_of_ne_nil _ hne]
  · rw [hchars, List.getLast?_append]
    exact hlast

end Coordinate

/-! ## The directory -/

namespace Repository

/-- How many bytes these segments take, each with a slash behind it. -/
def extent : List String → Nat
  | [] => 0
  | segment :: rest => (bytesOf segment).length + 1 + extent rest

theorem extent_append (a b : List String) : extent (a ++ b) = extent a + extent b := by
  induction a with
  | nil => rw [List.nil_append, extent, Nat.zero_add]
  | cons segment rest ih =>
      rw [List.cons_append, extent, extent, ih]
      omega

/-- A text takes as much as its segments, but for the slash behind the last one. -/
theorem extent_segmentsIn (text : String) :
    extent (segmentsIn text) = (bytesOf text).length + 1 := by
  have hchars : ∀ cs : List Char,
      extent ((Text.fields (fun c => c == '/' || c == '\\') cs).map String.ofList) =
        (cs.flatMap String.utf8EncodeChar).length + 1 := by
    intro cs
    induction cs with
    | nil => rfl
    | cons c cs ih =>
        obtain ⟨first, rest, hfields⟩ := List.exists_cons_of_ne_nil
          (Text.fields_ne_nil (fun c => c == '/' || c == '\\') cs)
        rw [hfields, List.map_cons, extent, bytesOf_eq_flatMap, String.toList_ofList] at ih
        rw [Text.fields_cons, hfields, List.flatMap_cons, List.length_append]
        split
        next hslash =>
          have hascii : c.toNat < 0x80 := by
            rw [Bool.or_eq_true, beq_iff_eq, beq_iff_eq] at hslash
            rcases hslash with rfl | rfl <;> decide
          have hempty : bytesOf (String.ofList []) = [] := by decide
          rw [utf8EncodeChar_ascii hascii, List.map_cons, List.map_cons, extent, extent,
            hempty, bytesOf_eq_flatMap, String.toList_ofList, List.length_singleton,
            List.length_nil]
          omega
        · rw [List.map_cons, extent, bytesOf_eq_flatMap, String.toList_ofList,
            List.flatMap_cons, List.length_append]
          omega
  rw [segmentsIn, hchars, bytesOf_eq_flatMap]

/-- Following segments adds no more than these take. -/
theorem extent_foldlM_follow {segments : List String} {place last : Place}
    (h : segments.foldlM Place.follow place = .ok last) :
    extent last.segments ≤ extent place.segments + extent segments := by
  induction segments generalizing place with
  | nil =>
      cases h
      exact Nat.le_add_right _ _
  | cons segment rest ih =>
      obtain ⟨next, hnext, hrest⟩ := foldlM_follow_cons h
      have hlast := ih hrest
      rw [extent]
      rcases Place.follow_eq_ok hnext with ⟨-, rfl⟩ | ⟨-, hne, rfl⟩ | ⟨-, rfl⟩ <;>
        simp only at hlast
      · omega
      · have hup : extent place.segments =
            extent place.segments.dropLast + extent [place.segments.getLast hne] := by
          rw [← extent_append, List.dropLast_append_getLast]
        omega
      · rw [extent_append, extent] at hlast
        have hnil : extent [] = 0 := rfl
        omega

end Repository

namespace Coordinate

open Repository

variable {r : Coordinate}

theorem basePath_eq_joinWith (h : ∀ s ∈ r.base, IsFileName s) :
    r.basePath = Text.joinWith "/" (Place.mk r.base true).written := by
  have happend := basePath_append (fun s hs => (h s hs).entry.1) (List.cons_ne_nil "" [])
  rwa [Text.joinWith, String.intercalate_singleton, String.append_empty] at happend

theorem segmentsIn_basePath (h : ∀ s ∈ r.base, IsFileName s) :
    segmentsIn r.basePath = (Place.mk r.base true).written := by
  have hne : (Place.mk r.base true).written ≠ [] := by simp [Place.written]
  rw [basePath_eq_joinWith h, segmentsIn_joinWith hne (chars_of_mem_written h)]

theorem length_basePath (h : ∀ s ∈ r.base, IsFileName s) :
    (bytesOf r.basePath).length = extent r.base := by
  have hextent := extent_segmentsIn r.basePath
  have hwritten : extent (Place.mk r.base true).written = extent r.base + 1 := by
    rw [Place.written, if_pos rfl, extent_append]
    rfl
  rw [segmentsIn_basePath h, hwritten] at hextent
  omega

/-- **A directory is read back exactly if no escape shows in it.** -/
theorem walk_basePath_iff (h : ∀ s ∈ r.base, IsFileName s) :
    (∃ place, walk [] r.basePath = .ok place ∧ r.base = place.segments) ↔
      ¬HasEscape r.basePath := by
  constructor
  · -- An escape makes the text shorter, so it leads to segments that take less.
    rintro ⟨place, hwalk, hbase⟩ hescape
    obtain ⟨segments, last, hsegments, hlast, rfl⟩ := exists_last_of_walk hwalk
    obtain ⟨text, hdecodes, -, rfl⟩ := exists_decodes_of_segmentsOf hsegments
    have hle : extent r.base ≤ extent (segmentsIn text) := by
      have hfold := extent_foldlM_follow hlast
      have hnil : extent (Place.mk [] false).segments = 0 := rfl
      have hclose : last.close.segments = last.segments := rfl
      rw [hbase, hclose]
      omega
    have hlength := length_basePath h
    have hshorter := hescape.length_lt hdecodes
    rw [extent_segmentsIn] at hle
    omega
  · intro hescape
    have hclean : '\x00' ∉ r.basePath.toList := by
      intro hmem
      rw [basePath_eq_joinWith h] at hmem
      rcases Text.mem_joinWith_slash hmem with hslash | ⟨part, hpart, hnul⟩
      · exact absurd hslash (by decide)
      · exact (chars_of_mem_written h part hpart _ hnul).2.2 rfl
    have hsegments := segmentsOf_of_decodes (decodes_self_of_not_hasEscape hescape)
    rw [if_neg hclean, segmentsIn_basePath h] at hsegments
    have hfollow : (Place.mk r.base true).written.foldlM Place.follow ⟨[], false⟩ =
        .ok ⟨r.base, true⟩ := foldlM_follow_written fun s hs => (h s hs).entry
    refine ⟨(Place.mk r.base true).close, ?_, rfl⟩
    rw [walk_of_segmentsOf hsegments, hfollow]
    rfl

/-! ## Coordinates -/

theorem isFileName_of_make {host ownerRepo basePath : String}
    (h : make host ownerRepo basePath = .ok r) : ∀ s ∈ r.base, IsFileName s := by
  obtain ⟨place, -, -, hwalk, hbase⟩ := make_eq_ok_iff.1 h
  intro s hs
  rw [hbase] at hs
  rcases isFileName_of_mem_walk hwalk s hs with hnil | hname
  · cases hnil
  · exact hname

/-- **A coordinate is read back from what it shows exactly if that holds nothing which reading takes
away**: no `.git` at the end of the repository and no escape in the directory. -/
theorem make_self_iff {host ownerRepo basePath : String}
    (h : make host ownerRepo basePath = .ok r) :
    make r.host r.ownerRepo r.basePath = .ok r ↔
      ¬".git".toList <:+ r.ownerRepo.toList ∧ ¬HasEscape r.basePath := by
  have hnames := isFileName_of_make h
  obtain ⟨-, hhost, hownerRepo, -, -⟩ := make_eq_ok_iff.1 h
  rw [make_eq_ok_iff, ← readOwnerRepo_self_iff (isOwnerRepo_of_readOwnerRepo hownerRepo),
    ← walk_basePath_iff hnames]
  constructor
  · rintro ⟨place, -, hrepo, hwalk, hbase⟩
    exact ⟨hrepo, place, hwalk, hbase⟩
  · rintro ⟨hrepo, place, hwalk, hbase⟩
    exact ⟨place, readHost_readHost hhost, hrepo, hwalk, hbase⟩

/-- A repository that has `.git` inside a name, and a directory with a percent sign that starts no
escape, given with all that reading takes away. -/
theorem make_self_iff_percent :
    let r : Coordinate := ⟨"git.example:8443", "group/r.git.io", ["100% x"]⟩
    make " Git.Example:8443/ " "/group/r.git.io.git/" "./100%25 x\\y%2f.." = .ok r ∧
      ¬".git".toList <:+ r.ownerRepo.toList ∧ ¬HasEscape r.basePath ∧
      make r.host r.ownerRepo r.basePath = .ok r := by
  intro r
  have hmake : make " Git.Example:8443/ " "/group/r.git.io.git/" "./100%25 x\\y%2f.." = .ok r := by
    decide +kernel
  have hsuffix : ¬".git".toList <:+ r.ownerRepo.toList := by decide +kernel
  have hescape : ¬HasEscape r.basePath := by decide +kernel
  exact ⟨hmake, hsuffix, hescape, (make_self_iff hmake).2 ⟨hsuffix, hescape⟩⟩

/-- A repository that ends in `.git` twice loses one at each reading, and a percent sign that is
encoded twice is decoded once at each. -/
theorem not_make_self :
    (∃ r, make "github.com" "o/r.git.git" "" = .ok r ∧
      make r.host r.ownerRepo r.basePath ≠ .ok r) ∧
    ∃ r, make "github.com" "o/r" "100%2525" = .ok r ∧
      make r.host r.ownerRepo r.basePath ≠ .ok r := by
  constructor
  · exact ⟨⟨"github.com", "o/r.git", []⟩, by decide +kernel, by decide +kernel⟩
  · exact ⟨⟨"github.com", "o/r", ["100%25"]⟩, by decide +kernel, by decide +kernel⟩

/-- **Every coordinate has a spelling that is read back**: its repository with `.git` behind it, and
its directory encoded. -/
theorem make_respelled {host ownerRepo basePath : String}
    (h : make host ownerRepo basePath = .ok r) :
    make r.host (r.ownerRepo ++ ".git") (Place.mk r.base true).close.print = .ok r := by
  obtain ⟨-, hhost, hownerRepo, -, -⟩ := make_eq_ok_iff.1 h
  exact make_eq_ok_iff.2 ⟨_, readHost_readHost hhost,
    readOwnerRepo_append_git (isOwnerRepo_of_readOwnerRepo hownerRepo),
    walk_print (isFileName_of_make h), rfl⟩

end Coordinate

end SafeReadme
