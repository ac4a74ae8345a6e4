import SafeReadme.Proofs.Url.Reading
import SafeReadme.Repository.Coordinate

/-!
# The text of a raw URL

The URL of a raw file is put together from three texts: the root of the forge, the joined path and
the suffix of the link. The first two are made of characters that a reader keeps, and the third
comes from a link that has been read, so the whole is a clean text with the scheme `https`.
-/

namespace SafeReadme

/-- A coordinate that a caller can have. -/
def Coordinate.Made (r : Coordinate) : Prop :=
  ∃ host ownerRepo basePath, Coordinate.make host ownerRepo basePath = .ok r

namespace Url

/-! ## Percent-encoded text -/

theorem hexDigit_visible {n : Nat} (h : n < 16) : 0x20 < (hexDigit n).toNat := by
  have hall : ∀ i : Fin 16, 0x20 < (hexDigit i).toNat := by decide
  exact hall ⟨n, h⟩

theorem escapeChar_visible {c d : Char} (h : d ∈ escapeChar c) : 0x20 < d.toNat := by
  obtain ⟨b, -, hd⟩ := List.mem_flatMap.1 h
  have hlt : b.toNat < 256 := UInt8.toNat_lt b
  simp only [escapeByte, List.mem_cons, List.not_mem_nil, or_false] at hd
  rcases hd with rfl | rfl | rfl
  · decide
  · exact hexDigit_visible (by omega)
  · exact hexDigit_visible (by omega)

theorem encode_visible {mustEscape : Char → Bool} {s : String} {d : Char}
    (hescaped : ∀ c : Char, c.toNat ≤ 0x20 → mustEscape c = true)
    (h : d ∈ (encode mustEscape s).toList) : 0x20 < d.toNat := by
  rw [encode, String.toList_ofList, List.mem_flatMap] at h
  obtain ⟨c, -, hd⟩ := h
  split at hd
  next hplain =>
    rw [List.mem_singleton] at hd
    subst hd
    by_contra hlow
    rw [hescaped d (by omega)] at hplain
    simp at hplain
  · exact escapeChar_visible hd

theorem isTabOrNewline_of_visible {c : Char} (h : 0x20 < c.toNat) : isTabOrNewline c = false := by
  by_contra hbreak
  have hlow := isControlOrSpace_of_isTabOrNewline (by simpa using hbreak)
  simp only [isControlOrSpace, decide_eq_true_eq] at hlow
  omega

theorem splitSuffix_eq (link : String) :
    link.toList = (splitSuffix link).1.toList ++ (splitSuffix link).2.toList := by
  rw [splitSuffix, List.span_eq_takeWhile_dropWhile]
  simp

end Url

/-! ## Joined paths -/

theorem Text.mem_joinWith {separator : String} {parts : List String} {c : Char}
    (h : c ∈ (joinWith separator parts).toList) :
    c ∈ separator.toList ∨ ∃ part ∈ parts, c ∈ part.toList := by
  induction parts with
  | nil => simp [joinWith] at h
  | cons first rest ih =>
      cases rest with
      | nil =>
          rw [joinWith, String.intercalate_singleton] at h
          exact .inr ⟨first, by simp, h⟩
      | cons second rest =>
          rw [joinWith, String.intercalate_cons_cons, String.toList_append, String.toList_append,
            List.mem_append, List.mem_append] at h
          rcases h with (h | h) | h
          · exact .inr ⟨first, by simp, h⟩
          · exact .inl h
          · rcases ih h with hsep | ⟨part, hpart, hc⟩
            · exact .inl hsep
            · exact .inr ⟨part, List.mem_cons_of_mem _ hpart, hc⟩

theorem Text.mem_joinWith_slash {parts : List String} {c : Char}
    (h : c ∈ (joinWith "/" parts).toList) : c = '/' ∨ ∃ part ∈ parts, c ∈ part.toList :=
  (mem_joinWith h).imp_left List.mem_singleton.1

namespace Repository

theorem mustEscape_of_le_space {c : Char} (h : c.toNat ≤ 0x20) : mustEscape c = true := by
  rcases Nat.lt_or_eq_of_le h with hlt | heq
  · simp [mustEscape, hlt]
  · have hc : c = ' ' := Char.toNat_inj.1 heq
    subst hc
    decide

theorem Place.print_visible {place : Place} {c : Char} (h : c ∈ place.print.toList) :
    0x20 < c.toNat := by
  rw [Place.print, String.toList_append, List.mem_append] at h
  rcases h with h | h
  · rcases Text.mem_joinWith_slash h with rfl | ⟨part, hpart, hc⟩
    · decide
    · obtain ⟨segment, -, rfl⟩ := List.mem_map.1 hpart
      exact Url.encode_visible (fun c hc => mustEscape_of_le_space hc) hc
  · split at h
    · rw [show "/".toList = ['/'] from rfl, List.mem_singleton] at h
      subst h
      decide
    · simp at h

theorem join_visible {base : List String} {path joined : String} {c : Char}
    (h : join base path = .ok joined) (hc : c ∈ joined.toList) : 0x20 < c.toNat := by
  unfold join at h
  cases hwalk : walk base path with
  | error rejection => simp [hwalk, Except.map] at h
  | ok place =>
      simp only [hwalk, Except.map, Except.ok.injEq] at h
      subst h
      exact Place.print_visible hc

end Repository

namespace Coordinate

open Url

/-! ## The parts of a coordinate -/

theorem isTabOrNewline_of_class {p : Char → Bool}
    (hp : p '\t' = false ∧ p '\n' = false ∧ p '\r' = false) {c : Char} (h : p c = true) :
    isTabOrNewline c = false := by
  by_contra hbreak
  simp only [isTabOrNewline, Bool.not_eq_false, Bool.or_eq_true, beq_iff_eq] at hbreak
  rcases hbreak with (rfl | rfl) | rfl <;> simp [hp] at h

theorem unbroken_readHost {text host : String} (h : readHost text = .ok host) :
    ∀ c ∈ host.toList, isTabOrNewline c = false := by
  simp only [readHost] at h
  split at h
  · cases h
  · split at h
    · cases h
    next hinside =>
      have hany : ∀ c ∈ host.toList, isOutsideHost c = false := by
        split at h
        · cases h
        · split at h
          · cases h
            simpa using hinside
          · cases h
      exact fun c hc => isTabOrNewline_of_class (p := fun c => !isOutsideHost c) (by decide)
        (by simp [hany c hc])

theorem unbroken_readOwnerRepo {text name : String} (h : readOwnerRepo text = .ok name) :
    ∀ c ∈ name.toList, isTabOrNewline c = false := by
  intro c hc
  simp only [readOwnerRepo] at h
  split at h
  · cases h
  next hnames =>
    rw [Except.ok.injEq] at h
    rw [← h] at hc
    rcases Text.mem_joinWith_slash hc with rfl | ⟨part, hpart, hc⟩
    · decide
    · rw [Bool.or_eq_true, not_or, Bool.not_eq_true', Bool.not_eq_false, List.all_eq_true] at hnames
      have hname := hnames.2 part hpart
      simp only [isName, Bool.and_eq_true, List.all_eq_true] at hname
      exact isTabOrNewline_of_class (p := isNameChar) (by decide) (hname.2 c hc)

theorem Made.parts {r : Coordinate} (h : r.Made) :
    (∃ text, readHost text = .ok r.host) ∧ (∃ text, readOwnerRepo text = .ok r.ownerRepo) ∧
      ∃ path place, Repository.walk [] path = .ok place ∧ r.base = place.segments := by
  obtain ⟨host, ownerRepo, basePath, hmake⟩ := h
  cases hhost : readHost host with
  | error e => simp [make, hhost, bind, Except.bind] at hmake
  | ok name =>
      cases hrepo : readOwnerRepo ownerRepo with
      | error e => simp [make, hhost, hrepo, bind, Except.bind] at hmake
      | ok repo =>
          simp only [make, hhost, hrepo, bind, Except.bind] at hmake
          split at hmake
          · cases hmake
          next place hwalk =>
            cases hmake
            exact ⟨⟨host, hhost⟩, ⟨ownerRepo, hrepo⟩, basePath, place, hwalk, rfl⟩

theorem Made.unbroken {r : Coordinate} (h : r.Made) :
    (∀ c ∈ r.host.toList, isTabOrNewline c = false) ∧
      ∀ c ∈ r.ownerRepo.toList, isTabOrNewline c = false := by
  obtain ⟨⟨_, hhost⟩, ⟨_, hrepo⟩, -⟩ := h.parts
  exact ⟨unbroken_readHost hhost, unbroken_readOwnerRepo hrepo⟩

/-! ## The raw URL -/

theorem rawRoot_parts {front site name layout back : String} (hfront : "https://" ++ site = front)
    (hback : layout ++ "/" = back) :
    front ++ name ++ back = "https://" ++ site ++ name ++ layout ++ "/" := by
  rw [← hfront, ← hback]
  simp only [String.append_assoc]

theorem forge_cases (r : Coordinate) :
    r.forge = .gitHub ∨ r.forge = .gitLab ∨ r.forge = .bitbucket ∨ r.forge = .other r.host := by
  unfold forge Forge.ofHost
  split
  · exact .inl rfl
  · split
    · exact .inr (.inl rfl)
    · split
      · exact .inr (.inr (.inl rfl))
      · exact .inr (.inr (.inr rfl))

theorem rawRoot_eq (r : Coordinate) :
    ∃ site layout : String, r.rawRoot = "https://" ++ site ++ r.ownerRepo ++ layout ++ "/" ∧
      (∀ c ∈ site.toList, c ∈ r.host.toList ∨ isTabOrNewline c = false) ∧
        ∀ c ∈ layout.toList, isTabOrNewline c = false := by
  rw [rawRoot]
  rcases r.forge_cases with hforge | hforge | hforge | hforge <;> rw [hforge]
  · exact ⟨"raw.githubusercontent.com/", "/HEAD", rawRoot_parts (by decide) (by decide),
      fun c hc => .inr (unbroken_of_all (by decide) c hc), unbroken_of_all (by decide)⟩
  · exact ⟨"gitlab.com/", "/-/raw/HEAD", rawRoot_parts (by decide) (by decide),
      fun c hc => .inr (unbroken_of_all (by decide) c hc), unbroken_of_all (by decide)⟩
  · exact ⟨"bitbucket.org/", "/raw/HEAD", rawRoot_parts (by decide) (by decide),
      fun c hc => .inr (unbroken_of_all (by decide) c hc), unbroken_of_all (by decide)⟩
  · refine ⟨r.host ++ "/", "/raw/HEAD", ?_, ?_, unbroken_of_all (by decide)⟩
    · have hfront : "https://" ++ (r.host ++ "/") = "https://" ++ r.host ++ "/" :=
        String.append_assoc.symm
      exact rawRoot_parts hfront (by decide)
    · intro c hc
      rw [String.toList_append, List.mem_append] at hc
      exact hc.imp_right (unbroken_of_all (by decide) c)

theorem Made.unbroken_rawRoot {r : Coordinate} (h : r.Made) :
    ∀ c ∈ r.rawRoot.toList, isTabOrNewline c = false := by
  obtain ⟨hhost, hrepo⟩ := h.unbroken
  obtain ⟨site, layout, heq, hsite, hlayout⟩ := r.rawRoot_eq
  have hscheme : ∀ c ∈ "https://".toList, isTabOrNewline c = false := unbroken_of_all (by decide)
  have hslash : ∀ c ∈ "/".toList, isTabOrNewline c = false := unbroken_of_all (by decide)
  intro c hc
  simp only [heq, String.toList_append, List.mem_append] at hc
  rcases hc with (((hc | hc) | hc) | hc) | hc
  · exact hscheme c hc
  · exact (hsite c hc).elim (hhost c) id
  · exact hrepo c hc
  · exact hlayout c hc
  · exact hslash c hc

/-- Between a root that ends in a visible character and the end of a link that has been read,
nothing can be taken away from visible text. -/
theorem isClean_of_parts {root joined suffix : List Char} {first : Char} {rest : List Char}
    (hroot : ∀ c ∈ root, isTabOrNewline c = false) (hfirst : root = first :: rest)
    (hvisible : 0x20 < first.toNat) (hlast : root.getLast? = some '/')
    (hjoined : ∀ c ∈ joined, 0x20 < c.toNat) (hsuffix : ∀ c ∈ suffix, isTabOrNewline c = false)
    (hend : ∀ c ∈ suffix.getLast?, isControlOrSpace c = false) :
    IsClean (root ++ joined ++ suffix) := by
  refine ⟨?_, ?_, ?_⟩
  · intro c hc
    simp only [List.mem_append] at hc
    rcases hc with (hc | hc) | hc
    · exact hroot c hc
    · exact isTabOrNewline_of_visible (hjoined c hc)
    · exact hsuffix c hc
  · intro c hc
    simp only [hfirst, List.cons_append, List.head?_cons, Option.mem_def, Option.some.injEq] at hc
    simp only [← hc, isControlOrSpace, decide_eq_false_iff_not]
    omega
  · intro c hc
    -- The last character is that of the last part that is not empty.
    rw [List.getLast?_append, List.getLast?_append, hlast] at hc
    cases hsuffix : suffix.getLast? with
    | some d =>
        rw [hsuffix] at hc
        exact hend c (by rwa [hsuffix])
    | none =>
        cases hmiddle : joined.getLast? with
        | some d =>
            simp only [hsuffix, hmiddle, Option.none_or, Option.some_or, Option.mem_def,
              Option.some.injEq] at hc
            have hd := hjoined d (List.mem_of_getLast? hmiddle)
            simp only [← hc, isControlOrSpace, decide_eq_false_iff_not]
            omega
        | none =>
            simp only [hsuffix, hmiddle, Option.none_or, Option.mem_def, Option.some.injEq] at hc
            subst hc
            decide

theorem rawUrl_eq {r : Coordinate} {link url : String} {fromRoot : Bool}
    (h : r.rawUrl link fromRoot = .ok url) :
    ∃ joined, Repository.join (if fromRoot then [] else r.base) (splitSuffix link).1 = .ok joined ∧
      url = r.rawRoot ++ joined ++ (splitSuffix link).2 := by
  simp only [rawUrl] at h
  cases hjoin : Repository.join (if fromRoot then [] else r.base) (splitSuffix link).1 with
  | error rejection => simp [hjoin, bind, Except.bind] at h
  | ok joined =>
      simp only [hjoin, bind, Except.bind] at h
      split at h
      · cases h
      · rw [Except.ok.injEq] at h
        exact ⟨joined, rfl, h.symm⟩

/-- What a link adds to the raw root is read as it is written. -/
theorem Made.isClean_append {r : Coordinate} (hmade : r.Made) {joined : String}
    (hjoined : ∀ c ∈ joined.toList, 0x20 < c.toNat) {suffix : List Char}
    (hsuffix : ∀ c ∈ suffix, isTabOrNewline c = false)
    (hend : ∀ c ∈ suffix.getLast?, isControlOrSpace c = false) :
    IsClean (r.rawRoot.toList ++ joined.toList ++ suffix) := by
  obtain ⟨site, layout, hroot, -, -⟩ := r.rawRoot_eq
  have hlast : r.rawRoot.toList.getLast? = some '/' := by
    rw [hroot, String.toList_append]
    exact List.getLast?_append
  have hfirst : r.rawRoot.toList =
      'h' :: ("ttps://" ++ site ++ r.ownerRepo ++ layout ++ "/").toList := by
    rw [hroot]
    simp
  exact isClean_of_parts hmade.unbroken_rawRoot hfirst (by decide) hlast hjoined hsuffix hend

/-- **A raw URL is read as it is written**, and its scheme is `https`. -/
theorem Made.rawUrl_clean {r : Coordinate} (hmade : r.Made) {link url : String} {fromRoot : Bool}
    (hlink : IsClean link.toList) (h : r.rawUrl link fromRoot = .ok url) :
    IsClean url.toList ∧ ∃ rest, url = "https://" ++ rest := by
  obtain ⟨joined, hjoin, hurl⟩ := rawUrl_eq h
  obtain ⟨site, layout, hroot, -, -⟩ := r.rawRoot_eq
  have hsplit := splitSuffix_eq link
  constructor
  · rw [hurl, String.toList_append, String.toList_append]
    apply hmade.isClean_append (fun c hc => Repository.join_visible hjoin hc)
    · exact fun c hc => hlink.unbroken c (by rw [hsplit]; exact List.mem_append_right _ hc)
    · intro c hc
      apply hlink.last
      rw [hsplit, List.getLast?_append, hc]
      rfl
  · refine ⟨site ++ r.ownerRepo ++ layout ++ "/" ++ joined ++ (splitSuffix link).2, ?_⟩
    rw [hurl, hroot]
    simp only [String.append_assoc]

end Coordinate

end SafeReadme
