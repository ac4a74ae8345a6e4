import SafeReadme.Proofs.Repository.Segments
import SafeReadme.Proofs.Url.Address

/-!
# The raw root of a coordinate

The raw root is a site and a path of names. A host that a coordinate accepts has been read as a host
before, so the site is read as the host and the port that it writes.
-/

namespace SafeReadme.Coordinate

open Url

/-! ## The raw root -/

/-- The host, with its port, that serves the raw files of a coordinate. -/
def site (r : Coordinate) : String :=
  match r.forge with
  | .gitHub => "raw.githubusercontent.com"
  | .gitLab => "gitlab.com"
  | .bitbucket => "bitbucket.org"
  | .other host => host

theorem site_of_other (r : Coordinate) {host : String} (h : r.forge = .other host) :
    r.site = r.host := by
  rcases r.forge_cases with hforge | hforge | hforge | hforge
  · rw [hforge] at h
    cases h
  · rw [hforge] at h
    cases h
  · rw [hforge] at h
    cases h
  · rw [site, hforge]

def layout (r : Coordinate) : List String :=
  match r.forge with
  | .gitHub => ["HEAD"]
  | .gitLab => ["-", "raw", "HEAD"]
  | .bitbucket | .other _ => ["raw", "HEAD"]

def rootPath (r : Coordinate) : String :=
  "/" ++ r.ownerRepo ++ "/" ++ Text.joinWith "/" r.layout ++ "/"

theorem append_rootPath {front site name layout back : String}
    (hfront : "https://" ++ site ++ "/" = front) (hback : "/" ++ layout ++ "/" = back) :
    front ++ name ++ back = "https://" ++ site ++ ("/" ++ name ++ "/" ++ layout ++ "/") := by
  rw [← hfront, ← hback]
  simp only [String.append_assoc]

theorem rawRoot_eq_site (r : Coordinate) : r.rawRoot = "https://" ++ r.site ++ r.rootPath := by
  have hshared : "/" ++ Text.joinWith "/" ["raw", "HEAD"] ++ "/" = "/raw/HEAD/" := by decide
  rw [rawRoot, site, rootPath, layout]
  cases r.forge with
  | gitHub => exact append_rootPath (by decide) (by decide)
  | gitLab => exact append_rootPath (by decide) (by decide)
  | bitbucket => exact append_rootPath (by decide) hshared
  | other host => exact append_rootPath rfl hshared

theorem isName_layout (r : Coordinate) : r.layout ≠ [] ∧ ∀ s ∈ r.layout, isName s = true := by
  have hshared : ["raw", "HEAD"] ≠ [] ∧ ∀ s ∈ ["raw", "HEAD"], isName s = true := by decide
  rw [layout]
  cases r.forge with
  | gitHub => decide
  | gitLab => decide
  | bitbucket => exact hshared
  | other host => exact hshared

/-- Two or more names with slashes between them. -/
def IsOwnerRepo (name : String) : Prop :=
  2 ≤ (Text.splitAt '/' name).length ∧ ∀ s ∈ Text.splitAt '/' name, isName s = true

theorem isOwnerRepo_of_readOwnerRepo {text name : String} (h : readOwnerRepo text = .ok name) :
    IsOwnerRepo name := by
  simp only [readOwnerRepo] at h
  split at h
  · cases h
  next hnames =>
    rw [Bool.or_eq_true, not_or, Bool.not_eq_true', Bool.not_eq_false, List.all_eq_true,
      decide_eq_true_iff, Nat.not_lt] at hnames
    rw [Text.joinWith_splitAt] at h
    obtain rfl := Except.ok.inj h
    exact hnames

theorem Made.exists_rootPath {r : Coordinate} (h : r.Made) :
    ∃ root, root ≠ [] ∧ (∀ s ∈ root, isName s = true) ∧
      r.rootPath = "/" ++ Text.joinWith "/" root ++ "/" := by
  obtain ⟨-, ⟨text, howner⟩, -⟩ := h.parts
  obtain ⟨hlength, hnames⟩ := isOwnerRepo_of_readOwnerRepo howner
  have hne : Text.splitAt '/' r.ownerRepo ≠ [] := List.ne_nil_of_length_pos (by omega)
  have heq := (Text.joinWith_splitAt r.ownerRepo).symm
  obtain ⟨hlayout, hlayoutNames⟩ := r.isName_layout
  refine ⟨Text.splitAt '/' r.ownerRepo ++ r.layout, by simp [hne], ?_, ?_⟩
  · intro s hs
    rcases List.mem_append.1 hs with hs | hs
    · exact hnames s hs
    · exact hlayoutNames s hs
  · rw [Text.joinWith] at heq
    rw [rootPath, Text.joinWith, Text.joinWith,
      String.intercalate_append_of_ne_nil hne hlayout, ← heq]
    simp only [String.append_assoc]

theorem Made.base_ordinary {r : Coordinate} (h : r.Made) : ∀ s ∈ r.base, IsOrdinary s := by
  obtain ⟨-, -, path, place, hwalk, hbase⟩ := h.parts
  rw [hbase]
  exact Repository.walk_ordinary hwalk (by simp)

/-! ## The host -/

theorem readHost_spec {text host : String} (h : readHost text = .ok host) :
    host ≠ "" ∧ (∀ c ∈ host.toList, isOutsideHost c = false) ∧
      ∃ address, Address.parse? ("https://" ++ host ++ "/") = some address ∧
        address.authority = host := by
  simp only [readHost] at h
  split at h
  · cases h
  next hempty =>
    split at h
    · cases h
    next hinside =>
      split at h
      · cases h
      next address hparse =>
        split at h
        next hauthority =>
          obtain rfl := Except.ok.inj h
          exact ⟨by simpa using hempty, by simpa using hinside, address, hparse, hauthority⟩
        · cases h

/-- A host that is read can stand in front of any path. -/
theorem ends_of_isOutsideHost {c : Char} (h : isOutsideHost c = false) :
    Address.endsAuthority c = false ∧ c ≠ '@' := by
  simp only [isOutsideHost, Bool.or_eq_false_iff, List.contains_eq_mem, List.mem_cons,
    List.not_mem_nil, or_false, decide_eq_false_iff_not, not_or] at h
  simp [Address.endsAuthority, Address.isSlash, h]

theorem isClean_root {host : String} (h : ∀ c ∈ host.toList, isTabOrNewline c = false) :
    IsClean ("https://" ++ host ++ "/").toList := by
  have hscheme : ∀ c ∈ "https://".toList, isTabOrNewline c = false := unbroken_of_all (by decide)
  have hslash : ∀ c ∈ "/".toList, isTabOrNewline c = false := unbroken_of_all (by decide)
  have hchars : ("https://" ++ host ++ "/").toList =
      "https://".toList ++ host.toList ++ "/".toList := by
    rw [String.toList_append, String.toList_append]
  have hfirst : ("https://" ++ host ++ "/").toList =
      'h' :: ("ttps://".toList ++ host.toList ++ "/".toList) :=
    hchars
  have hlast : ("https://" ++ host ++ "/").toList.getLast? = some '/' := by
    rw [hchars]
    exact List.getLast?_append
  have hroot : ∀ c ∈ ("https://" ++ host ++ "/").toList, isTabOrNewline c = false := by
    intro c hc
    rw [hchars, List.mem_append, List.mem_append] at hc
    rcases hc with (hc | hc) | hc
    · exact hscheme c hc
    · exact h c hc
    · exact hslash c hc
  have hclean : IsClean (("https://" ++ host ++ "/").toList ++ [] ++ []) :=
    isClean_of_parts hroot hfirst (by decide) hlast (by simp) (by simp) (by simp)
  simpa using hclean

theorem authority_of_readHost {text host : String} (h : readHost text = .ok host) :
    ∃ found port, Address.authority? host.toList = some (found, port) ∧
      ∀ a : Address, a.host = found → a.port = port → a.authority = host := by
  obtain ⟨hne, hinside, address, hparse, hauthority⟩ := readHost_spec h
  have hclean := isClean_root (unbroken_readHost h)
  have hread : (canonical ("https://" ++ host ++ "/")).toList =
      "https://".toList ++ (host.toList ++ '/' :: ([] ++ [])) := by
    rw [(canonical_eq_self_iff _).2 hclean]
    simp
  have hsite : ∀ c ∈ host.toList, Address.endsAuthority c = false ∧ c ≠ '@' :=
    fun c hc => ends_of_isOutsideHost (hinside c hc)
  have hnil : host.toList ≠ [] := by simpa using hne
  obtain ⟨query, fragment, heq⟩ :=
    Address.parse?_https hread hnil hsite (by simp) (by simp)
  rw [heq] at hparse
  obtain ⟨⟨found, port⟩, hfound, rfl⟩ := Option.map_eq_some_iff.1 hparse
  refine ⟨found, port, hfound, fun a hhost hport => ?_⟩
  rw [← hauthority, Address.authority, Address.authority, hhost, hport]

theorem Made.authority_site {r : Coordinate} (h : r.Made) :
    r.site.toList ≠ [] ∧ (∀ c ∈ r.site.toList, Address.endsAuthority c = false ∧ c ≠ '@') ∧
      ∃ found port, Address.authority? r.site.toList = some (found, port) ∧
        ∀ a : Address, a.host = found → a.port = port → a.authority = r.site := by
  have hknown : ∀ name : String,
      Address.authority? name.toList = some (.domain name, none) →
        ∃ found port, Address.authority? name.toList = some (found, port) ∧
          ∀ a : Address, a.host = found → a.port = port → a.authority = name := by
    intro name hname
    refine ⟨_, _, hname, fun a hhost hport => ?_⟩
    rw [Address.authority, hhost, hport]
    rfl
  have hplain : ∀ name : String,
      name.toList.all (fun c => !Address.endsAuthority c && c != '@') = true →
        ∀ c ∈ name.toList, Address.endsAuthority c = false ∧ c ≠ '@' := by
    intro name hname c hc
    simpa using List.all_eq_true.1 hname c hc
  rw [site]
  rcases r.forge_cases with hforge | hforge | hforge | hforge <;> rw [hforge]
  · exact ⟨by decide, hplain _ (by decide), hknown _ (by decide +kernel)⟩
  · exact ⟨by decide, hplain _ (by decide), hknown _ (by decide +kernel)⟩
  · exact ⟨by decide, hplain _ (by decide), hknown _ (by decide +kernel)⟩
  · obtain ⟨⟨text, hhost⟩, -, -⟩ := h.parts
    obtain ⟨hne, hinside, -⟩ := readHost_spec hhost
    exact ⟨by simpa using hne, fun c hc => ends_of_isOutsideHost (hinside c hc),
      authority_of_readHost hhost⟩

end SafeReadme.Coordinate
