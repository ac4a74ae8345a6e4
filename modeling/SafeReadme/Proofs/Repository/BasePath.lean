import SafeReadme.Proofs.Repository.Outcome

/-!
# A base path is the start of a path

The directory of a document is what its base path leads to from the root. So a link of the document
names the same file as the link that has the base path in front of it, looked up from the root.
-/

namespace SafeReadme

open Repository

theorem Repository.join_append_slash {base : List String} {front : String} {place : Place}
    (h : walk base front = .ok place) (back : String) :
    join base (front ++ "/" ++ back) = join place.segments back := by
  rw [join, join, walk_append_slash h]

/-- What stands in front of a link and has no suffix itself belongs to the path. -/
theorem Url.IsSplit.append {front link path suffix : String} (h : IsSplit link path suffix)
    (hfront : ∀ c ∈ front.toList, c ≠ '?' ∧ c ≠ '#') :
    IsSplit (front ++ "/" ++ link) (front ++ "/" ++ path) suffix where
  whole := by
    rw [h.whole, String.append_assoc, String.append_assoc, String.append_assoc]
  path := by
    have hslash : '/' ≠ '?' ∧ '/' ≠ '#' := by decide
    intro c hc
    simp only [String.toList_append, List.mem_append] at hc
    rcases hc with (hc | hc) | hc
    · exact hfront c hc
    · obtain rfl := List.mem_singleton.1 hc
      exact hslash
    · exact h.path c hc
  suffix := h.suffix

namespace Coordinate

open Url

theorem make_eq_ok_iff {host ownerRepo basePath : String} {r : Coordinate} :
    make host ownerRepo basePath = .ok r ↔
      ∃ place, readHost host = .ok r.host ∧ readOwnerRepo ownerRepo = .ok r.ownerRepo ∧
        walk [] basePath = .ok place ∧ r.base = place.segments := by
  simp only [make, bind, Except.bind]
  cases readHost host with
  | error e => simp
  | ok name =>
      cases readOwnerRepo ownerRepo with
      | error e => simp
      | ok repo =>
          cases walk [] basePath with
          | error e => simp
          | ok place =>
              obtain ⟨host', ownerRepo', base'⟩ := r
              simp only [Except.ok.injEq, Coordinate.mk.injEq]
              constructor
              · rintro ⟨rfl, rfl, rfl⟩
                exact ⟨place, rfl, rfl, rfl, rfl⟩
              · rintro ⟨_, rfl, rfl, rfl, rfl⟩
                exact ⟨rfl, rfl, rfl⟩

theorem make_root {host ownerRepo basePath : String} {r : Coordinate}
    (h : make host ownerRepo basePath = .ok r) :
    make host ownerRepo "" = .ok ⟨r.host, r.ownerRepo, []⟩ := by
  obtain ⟨-, hhost, hrepo, -, -⟩ := make_eq_ok_iff.1 h
  have hroot : walk [] "" = .ok ⟨[], false⟩ := by decide +kernel
  exact make_eq_ok_iff.2 ⟨_, hhost, hrepo, hroot, rfl⟩

/-- **A base path acts as a path in front.** Where a coordinate is made with a base path without `?`
and `#`, one can be made of the same host and repository without a base path, and every link
resolved against the first has the outcome, address or rejection, of the base path, a slash and the
link resolved against the second. -/
theorem rawUrl_of_basePath {host ownerRepo basePath : String} {r : Coordinate}
    (hmake : make host ownerRepo basePath = .ok r)
    (hbasePath : ∀ c ∈ basePath.toList, c ≠ '?' ∧ c ≠ '#') :
    ∃ root, make host ownerRepo "" = .ok root ∧
      ∀ link, r.rawUrl link false = root.rawUrl (basePath ++ "/" ++ link) false := by
  refine ⟨⟨r.host, r.ownerRepo, []⟩, make_root hmake, fun link => ?_⟩
  obtain ⟨place, -, -, hwalk, hbase⟩ := make_eq_ok_iff.1 hmake
  have hlink := isSplit_splitSuffix link
  have hmade : r.Made := ⟨host, ownerRepo, basePath, hmake⟩
  have hroot : (Coordinate.mk r.host r.ownerRepo []).Made := ⟨host, ownerRepo, "", make_root hmake⟩
  have hjoin : join r.base (splitSuffix link).1 =
      join [] (basePath ++ "/" ++ (splitSuffix link).1) := by
    rw [join_append_slash hwalk, hbase]
  rw [hmade.rawUrl_eq_map hlink, hroot.rawUrl_eq_map (hlink.append hbasePath)]
  exact congrArg (Except.map _) hjoin

/-- A base path that goes up, has an empty segment and ends in an encoded letter, and a link that
climbs into it. -/
theorem rawUrl_of_basePath_encoded :
    let basePath := "x/../docs//%C3%A9"
    let r : Coordinate := ⟨"github.com", "o/r", ["docs", "é"]⟩
    make "github.com" "o/r" basePath = .ok r ∧ (∀ c ∈ basePath.toList, c ≠ '?' ∧ c ≠ '#') ∧
      r.rawUrl "..\\%2e/b/?c" false =
        .ok "https://raw.githubusercontent.com/o/r/HEAD/docs/b/?c" ∧
      ∃ root, make "github.com" "o/r" "" = .ok root ∧
        r.rawUrl "..\\%2e/b/?c" false =
          root.rawUrl (basePath ++ "/" ++ "..\\%2e/b/?c") false := by
  intro basePath r
  have hmake : make "github.com" "o/r" basePath = .ok r := by decide +kernel
  have hplain : basePath.toList.all (fun c => c != '?' && c != '#') = true := by decide +kernel
  have hbasePath : ∀ c ∈ basePath.toList, c ≠ '?' ∧ c ≠ '#' := fun c hc => by
    simpa using List.all_eq_true.1 hplain c hc
  obtain ⟨root, hroot, hlinks⟩ := rawUrl_of_basePath hmake hbasePath
  exact ⟨hmake, hbasePath, by decide +kernel, root, hroot, hlinks _⟩

end Coordinate

end SafeReadme
