import SafeReadme.Proofs.Repository.Containment
import SafeReadme.Proofs.Repository.Walk

/-!
# When a raw URL fails

The raw root of a coordinate and a joined path make an address whatever follows them, so a raw URL
fails only where the path of the link does: it is malformed, or it climbs out of the repository.
-/

namespace SafeReadme

open Repository

namespace Url

/-! ## Links -/

/-- A link is cut in front of its first `?` or `#`. -/
structure IsSplit (link path suffix : String) : Prop where
  whole : link = path ++ suffix
  path : ∀ c ∈ path.toList, c ≠ '?' ∧ c ≠ '#'
  suffix : ∀ c ∈ suffix.toList.head?, c = '?' ∨ c = '#'

theorem startsSuffix_eq_false_iff {c : Char} : startsSuffix c = false ↔ c ≠ '?' ∧ c ≠ '#' := by
  simp [startsSuffix]

theorem isSplit_splitSuffix (link : String) :
    IsSplit link (splitSuffix link).1 (splitSuffix link).2 where
  whole := by
    rw [← String.toList_inj, String.toList_append]
    exact splitSuffix_eq link
  path := by
    intro c hc
    have htake : (splitSuffix link).1.toList = link.toList.takeWhile (fun c => !startsSuffix c) := by
      rw [splitSuffix, List.span_eq_takeWhile_dropWhile, String.toList_ofList]
    rw [htake] at hc
    exact startsSuffix_eq_false_iff.1 (by simpa using List.mem_takeWhile_imp hc)
  suffix := Coordinate.head_splitSuffix link

/-- There is only one way to cut a link. -/
theorem IsSplit.splitSuffix_eq {link path suffix : String} (h : IsSplit link path suffix) :
    splitSuffix link = (path, suffix) := by
  have hbreak : Text.breakAt startsSuffix link.toList = (path.toList, suffix.toList) := by
    rw [h.whole, String.toList_append]
    apply Text.breakAt_append
    · exact fun c hc => startsSuffix_eq_false_iff.2 (h.path c hc)
    · intro c hc
      rcases h.suffix c hc with rfl | rfl <;> rfl
  have hspan : splitSuffix link = (String.ofList (Text.breakAt startsSuffix link.toList).1,
      String.ofList (Text.breakAt startsSuffix link.toList).2) := rfl
  rw [hspan, hbreak, String.ofList_toList, String.ofList_toList]

end Url

namespace Coordinate

open Url

/-! ## The address of a raw file -/

def start (r : Coordinate) (fromRoot : Bool) : List String :=
  if fromRoot then [] else r.base

theorem Made.start_ordinary {r : Coordinate} (h : r.Made) (fromRoot : Bool) :
    ∀ s ∈ r.start fromRoot, IsOrdinary s := by
  cases fromRoot with
  | false => exact h.base_ordinary
  | true => simp [start]

theorem Made.exists_address {r : Coordinate} (h : r.Made) {fromRoot : Bool}
    {path joined suffix : String} (hjoin : join (r.start fromRoot) path = .ok joined)
    (hsuffix : ∀ c ∈ suffix.toList.head?, c = '?' ∨ c = '#') :
    ∃ address, Address.parse? (r.rawRoot ++ joined ++ suffix) = some address := by
  obtain ⟨found, port, root, -, -, -, hread⟩ := h.parse?_below
  obtain ⟨inside, hinside, hordinary, rfl⟩ := exists_print hjoin (h.start_ordinary fromRoot)
  obtain ⟨rest, hurl, hrest⟩ :=
    h.canonical_rawUrl (fun c hc => join_visible hjoin hc) hsuffix
  obtain ⟨query, fragment, haddress⟩ := hread _ inside rest hinside hordinary hrest hurl
  exact ⟨_, haddress⟩

/-- The last check of a raw URL never refuses it. -/
theorem Made.rawUrl_eq_map {r : Coordinate} (h : r.Made) {link path suffix : String}
    (hlink : IsSplit link path suffix) (fromRoot : Bool) :
    r.rawUrl link fromRoot =
      (join (r.start fromRoot) path).map (fun joined => r.rawRoot ++ joined ++ suffix) := by
  have hstart : (if fromRoot = true then [] else r.base) = r.start fromRoot := rfl
  simp only [rawUrl, hlink.splitSuffix_eq, hstart]
  cases hjoin : join (r.start fromRoot) path with
  | error rejection => rfl
  | ok joined =>
      obtain ⟨address, haddress⟩ := h.exists_address hjoin hlink.suffix
      simp only [bind, Except.bind, Except.map, haddress]

/-! ## The outcome -/

end Coordinate

end SafeReadme
