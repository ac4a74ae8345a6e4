import SafeReadme.Policy.Packagist
import SafeReadme.Proofs.Repository.RawUrl
import SafeReadme.Sanitize.Rule

/-!
# The URL filter

A URL that the filter gives is read by a browser as it is written, and it is an anchor, or has an
allowed scheme, or is relative in a document of no known repository. So the filter gives the same
URL when it is given one of its own.
-/

namespace SafeReadme

open Url

theorem eq_ok_of_toOption {ε α : Type} {x : Except ε α} {a : α} (h : x.toOption = some a) :
    x = .ok a := by
  cases x with
  | error e => cases h
  | ok b =>
      cases h
      rfl

namespace Link

/-! ## Kinds of links by their first characters -/

def StartsAnchor (text : List Char) : Prop :=
  ['#'] <+: text ∨ ['.', '/', '#'] <+: text

def StartsSlashes (text : List Char) : Prop :=
  ∃ a b rest, text = a :: b :: rest ∧ isSlash a = true ∧ isSlash b = true

theorem classify_of_scheme {link scheme : String} (h : scheme? link = some scheme) :
    classify link = .absolute scheme link := by
  rw [classify, h]

/-- Without a scheme, the first characters alone decide. -/
theorem classify_of_no_scheme {link : String} (h : scheme? link = none) :
    (StartsAnchor link.toList ∧ ∃ anchor, classify link = .fragment anchor) ∨
      (¬StartsAnchor link.toList ∧ StartsSlashes link.toList ∧
        classify link = .schemeRelative link) ∨
      (¬StartsAnchor link.toList ∧ ¬StartsSlashes link.toList ∧
        (classify link = .rootRelative link ∨ classify link = .documentRelative link)) := by
  rw [classify, h]
  simp only
  split
  next anchor heq => exact .inl ⟨.inl (by simp [heq]), _, rfl⟩
  next anchor heq => exact .inl ⟨.inr (by simp [heq]), _, rfl⟩
  next a b rest hhash hdot heq =>
    have hanchor : ¬StartsAnchor link.toList := by
      rintro (⟨more, hmore⟩ | ⟨more, hmore⟩)
      · cases hmore.trans heq
        exact hhash rfl
      · cases hmore.trans heq
        exact hdot _ rfl rfl rfl
    by_cases ha : isSlash a = true
    · rw [if_pos ha]
      by_cases hb : isSlash b = true
      · rw [if_pos hb]
        exact .inr (.inl ⟨hanchor, ⟨a, b, rest, heq, ha, hb⟩, rfl⟩)
      · rw [if_neg hb]
        refine .inr (.inr ⟨hanchor, ?_, .inl rfl⟩)
        rintro ⟨a', b', rest', heq', -, hb'⟩
        rw [heq] at heq'
        cases heq'
        exact hb hb'
    · rw [if_neg ha]
      refine .inr (.inr ⟨hanchor, ?_, .inr rfl⟩)
      rintro ⟨a', b', rest', heq', ha', -⟩
      rw [heq] at heq'
      cases heq'
      exact ha ha'
  next a hhash heq =>
    have hanchor : ¬StartsAnchor link.toList := by
      rintro (⟨more, hmore⟩ | ⟨more, hmore⟩)
      · cases hmore.trans heq
        exact hhash rfl
      · cases hmore.trans heq
    have hslashes : ¬StartsSlashes link.toList := by
      rintro ⟨a', b', rest', heq', -, -⟩
      simp [heq] at heq'
    refine .inr (.inr ⟨hanchor, hslashes, ?_⟩)
    split
    · exact .inl rfl
    · exact .inr rfl
  next heq =>
    refine .inr (.inr ⟨?_, ?_, .inr rfl⟩)
    · rintro (⟨more, hmore⟩ | ⟨more, hmore⟩) <;> cases hmore.trans heq
    · rintro ⟨a', b', rest', heq', -, -⟩
      simp [heq] at heq'

end Link

/-! ## URLs of the web -/

/-- A clean link without its first two characters can follow a scheme. -/
theorem isClean_https {link : String} (h : IsClean link.toList) :
    IsClean ("https://" ++ String.ofList (link.toList.drop 2)).toList := by
  simp only [String.toList_append, String.toList_ofList]
  refine ⟨?_, ?_, ?_⟩
  · have hscheme : ∀ c ∈ "https://".toList, isTabOrNewline c = false :=
      unbroken_of_all (by decide)
    intro c hc
    rcases List.mem_append.1 hc with hc | hc
    · exact hscheme c hc
    · exact h.unbroken c (List.mem_of_mem_drop hc)
  · intro c hc
    rw [List.head?_append] at hc
    cases hc
    decide
  · intro c hc
    -- If nothing is left of the link, the last character is a slash.
    rw [List.getLast?_append] at hc
    cases hlast : (link.toList.drop 2).getLast? with
    | none =>
        rw [hlast] at hc
        cases hc
        decide
    | some d =>
        rw [hlast] at hc
        cases hc
        apply h.last
        rw [List.getLast?_drop] at hlast
        split at hlast
        · cases hlast
        · exact hlast

namespace Rule

def forUrl (c : UrlClass) (hasRepository : Bool) : Rule :=
  if hasRepository then resolved c else schemeFiltered c

theorem forAttribute_of_urlClass {tag name : String} {c : UrlClass} {hasRepository : Bool}
    (h : urlClass tag name = some c) : forAttribute tag name hasRepository = forUrl c hasRepository := by
  rw [forAttribute, h, forUrl]

theorem apply_forUrl (policy : Policy) (coordinate : Option Coordinate) (c : UrlClass)
    (hasRepository : Bool) (value : String) :
    (forUrl c hasRepository).apply value policy coordinate =
      applyUrl (forUrl c hasRepository) c value policy coordinate := by
  cases hasRepository <;> rfl

/-! ## What the filter makes of each kind of link -/

section

variable {policy : Policy} {coordinate : Option Coordinate} {c : UrlClass} {value : String}

/-- What is written is judged by the scheme it has after it was rewritten. -/
theorem applyUrl_eq_ok_iff {rule : Rule} {out : String} :
    applyUrl rule c value policy coordinate = .ok out ↔
      canonical value ≠ "" ∧
        ((Link.classify (canonical value)).isRelativePath = true → policy.allowsRelative c = true) ∧
          rewrite rule (canonical value) coordinate = .ok out ∧
            ∀ scheme ∈ scheme? out, policy.allowsScheme c scheme = true := by
  simp only [applyUrl, String.isEmpty_iff]
  by_cases hempty : canonical value = ""
  · simp [hempty]
  · rw [if_neg hempty]
    by_cases hrelative : (Link.classify (canonical value)).isRelativePath = true ∧
        policy.allowsRelative c = false
    · simp [hrelative.1, hrelative.2]
    · have hpermitted : (Link.classify (canonical value)).isRelativePath = true →
          policy.allowsRelative c = true := by
        intro h
        by_contra hnot
        exact hrelative ⟨h, by simpa using hnot⟩
      rw [if_neg (by simpa using hpermitted)]
      cases hrewrite : rewrite rule (canonical value) coordinate with
      | error rejection => simp
      | ok rewritten =>
          simp only
          cases hscheme : scheme? rewritten with
          | none =>
              simp only [Except.ok.injEq]
              constructor
              · rintro rfl
                exact ⟨hempty, hpermitted, rfl, by simp [hscheme]⟩
              · exact fun h => h.2.2.1
          | some scheme =>
              simp only [Except.ok.injEq]
              by_cases hallowed : policy.allowsScheme c scheme = true
              · rw [if_pos hallowed, Except.ok.injEq]
                constructor
                · rintro rfl
                  exact ⟨hempty, hpermitted, rfl, by simpa [hscheme] using hallowed⟩
                · exact fun h => h.2.2.1
              · rw [if_neg hallowed]
                constructor
                · exact fun h => by cases h
                · rintro ⟨-, -, rfl, h⟩
                  exact absurd (h scheme hscheme) hallowed

theorem rewrite_absolute {hasRepository : Bool} {link scheme : String}
    (hkind : Link.classify link = .absolute scheme link) (hlink : link ≠ "") :
    rewrite (forUrl c hasRepository) link coordinate = .ok link := by
  cases hasRepository <;> simp [forUrl, rewrite, resolve, hkind, hlink]

theorem rewrite_fragment {hasRepository : Bool} {link anchor : String}
    (hkind : Link.classify link = .fragment anchor) (hlink : link ≠ "") :
    rewrite (forUrl c hasRepository) link coordinate = .ok link := by
  cases hasRepository <;> simp [forUrl, rewrite, resolve, hkind, hlink]

theorem rewrite_schemeRelative {hasRepository : Bool} {link out : String}
    (hkind : Link.classify link = .schemeRelative link)
    (h : rewrite (forUrl c hasRepository) link coordinate = .ok out) :
    out = "https://" ++ String.ofList (link.toList.drop 2) := by
  have hresolve : resolve link coordinate = .ok out := by
    cases hasRepository <;> simpa [forUrl, rewrite, hkind] using h
  unfold resolve at hresolve
  split at hresolve
  · cases hresolve
  · simp only [hkind] at hresolve
    split at hresolve
    · cases hresolve
    · exact (Except.ok.inj hresolve).symm

/-- A relative path is left as it is where no repository is known, and names a raw file where one
is. -/
theorem rewrite_relative {link out : String}
    (hkind : Link.classify link = .rootRelative link ∨ Link.classify link = .documentRelative link)
    (h : rewrite (forUrl c coordinate.isSome) link coordinate = .ok out) :
    coordinate = none ∧ out = link ∨
      ∃ r fromRoot, coordinate = some r ∧ r.rawUrl link fromRoot = .ok out := by
  cases coordinate with
  | none =>
      have hout : link = out := by
        rcases hkind with hkind | hkind <;> simpa [forUrl, rewrite, hkind] using h
      exact .inl ⟨rfl, hout.symm⟩
  | some r =>
      simp only [forUrl, Option.isSome_some, if_true, rewrite] at h
      unfold resolve at h
      split at h
      · cases h
      · rcases hkind with hkind | hkind
        · simp only [hkind] at h
          exact .inr ⟨r, true, rfl, h⟩
        · simp only [hkind] at h
          exact .inr ⟨r, false, rfl, h⟩

/-! ## The URLs that are written -/

def HasAllowedScheme (policy : Policy) (c : UrlClass) (text : List Char) : Prop :=
  ∃ scheme, standardScheme text = some scheme ∧
    policy.allowsScheme c (String.ofList scheme) = true

def IsAnchor (text : List Char) : Prop :=
  standardScheme text = none ∧ Link.StartsAnchor text

def IsRelative (text : List Char) : Prop :=
  standardScheme text = none ∧ ¬Link.StartsAnchor text ∧ ¬Link.StartsSlashes text

/-- What the filter gives: one of three kinds of URL, the last only where relative URLs of the
class are allowed and no repository is known. -/
inductive Admitted (policy : Policy) (coordinate : Option Coordinate) (c : UrlClass)
    (text : List Char) : Prop where
  | scheme (h : HasAllowedScheme policy c text)
  | anchor (h : IsAnchor text)
  | relative (h : IsRelative text) (hunknown : coordinate = none)
      (hallowed : policy.allowsRelative c = true)

theorem standardScheme_eq_none_iff {link : String} :
    standardScheme link.toList = none ↔ scheme? link = none := by
  rw [scheme?_eq_standardScheme, Option.map_eq_none_iff]

theorem hasAllowedScheme_iff {link : String} :
    HasAllowedScheme policy c link.toList ↔
      ∃ scheme, scheme? link = some scheme ∧ policy.allowsScheme c scheme = true := by
  rw [scheme?_eq_standardScheme]
  constructor
  · rintro ⟨scheme, hscheme, hallowed⟩
    exact ⟨String.ofList scheme, by rw [hscheme]; rfl, hallowed⟩
  · rintro ⟨scheme, hscheme, hallowed⟩
    obtain ⟨chars, hchars, rfl⟩ := Option.map_eq_some_iff.1 hscheme
    exact ⟨chars, hchars, hallowed⟩

/-- **The filter is sound.** What it gives is read as it is written, and it is admitted. -/
theorem clean_admitted_of_applyUrl {out : String} (hmade : ∀ r ∈ coordinate, r.Made)
    (h : applyUrl (forUrl c coordinate.isSome) c value policy coordinate = .ok out) :
    IsClean out.toList ∧ out ≠ "" ∧ Admitted policy coordinate c out.toList := by
  obtain ⟨hne, hrelative, hrewrite, hscheme⟩ := applyUrl_eq_ok_iff.1 h
  have hclean := isClean_canonical value
  cases hlink : scheme? (canonical value) with
  | some scheme =>
      rw [rewrite_absolute (Link.classify_of_scheme hlink) hne] at hrewrite
      cases hrewrite
      exact ⟨hclean, hne, .scheme (hasAllowedScheme_iff.2 ⟨scheme, hlink, hscheme scheme hlink⟩)⟩
  | none =>
      have hnone := standardScheme_eq_none_iff.2 hlink
      rcases Link.classify_of_no_scheme hlink with
        ⟨hanchor, anchor, hkind⟩ | ⟨-, -, hkind⟩ | ⟨hanchor, hslashes, hkind⟩
      · rw [rewrite_fragment hkind hne] at hrewrite
        cases hrewrite
        exact ⟨hclean, hne, .anchor ⟨hnone, hanchor⟩⟩
      · obtain rfl := rewrite_schemeRelative hkind hrewrite
        refine ⟨isClean_https hclean, ?_, .scheme (hasAllowedScheme_iff.2 ⟨"https", ?_⟩)⟩
        · simp
        · exact ⟨scheme?_https _, hscheme "https" (scheme?_https _)⟩
      · have hallowed : policy.allowsRelative c = true := by
          apply hrelative
          rcases hkind with hkind | hkind <;> rw [hkind] <;> rfl
        rcases rewrite_relative hkind hrewrite with
          ⟨hunknown, rfl⟩ | ⟨r, fromRoot, hknown, hraw⟩
        · exact ⟨hclean, hne, .relative ⟨hnone, hanchor, hslashes⟩ hunknown hallowed⟩
        · obtain ⟨hurl, rest, rfl⟩ := (hmade r hknown).rawUrl_clean hclean hraw
          refine ⟨hurl, ?_, .scheme (hasAllowedScheme_iff.2 ⟨"https", ?_⟩)⟩
          · simp
          · exact ⟨scheme?_https _, hscheme "https" (scheme?_https _)⟩

theorem applyUrl_of_admitted {url : String} (hclean : IsClean url.toList) (hne : url ≠ "")
    (h : Admitted policy coordinate c url.toList) :
    applyUrl (forUrl c coordinate.isSome) c url policy coordinate = .ok url := by
  rw [applyUrl_eq_ok_iff, (canonical_eq_self_iff url).2 hclean]
  cases h with
  | scheme h =>
      obtain ⟨scheme, hscheme, hallowed⟩ := hasAllowedScheme_iff.1 h
      have hkind := Link.classify_of_scheme hscheme
      refine ⟨hne, by simp [hkind, Link.isRelativePath], rewrite_absolute hkind hne, ?_⟩
      simpa [hscheme] using hallowed
  | anchor h =>
      have hnone := standardScheme_eq_none_iff.1 h.1
      rcases Link.classify_of_no_scheme hnone with
        ⟨-, anchor, hkind⟩ | ⟨hanchor, -⟩ | ⟨hanchor, -⟩
      · refine ⟨hne, by simp [hkind, Link.isRelativePath], rewrite_fragment hkind hne, ?_⟩
        simp [hnone]
      · exact absurd h.2 hanchor
      · exact absurd h.2 hanchor
  | relative h hunknown hallowed =>
      have hnone := standardScheme_eq_none_iff.1 h.1
      refine ⟨hne, fun _ => hallowed, ?_, by simp [hnone]⟩
      subst hunknown
      rcases Link.classify_of_no_scheme hnone with
        ⟨hanchor, -⟩ | ⟨-, hslashes, -⟩ | ⟨-, -, hkind | hkind⟩
      · exact absurd hanchor h.2.1
      · exact absurd hslashes h.2.2
      · simp [forUrl, rewrite, hkind]
      · simp [forUrl, rewrite, hkind]

theorem applyUrl_idempotent {out : String} (hmade : ∀ r ∈ coordinate, r.Made)
    (h : applyUrl (forUrl c coordinate.isSome) c value policy coordinate = .ok out) :
    applyUrl (forUrl c coordinate.isSome) c out policy coordinate = .ok out := by
  obtain ⟨hclean, hne, hadmitted⟩ := clean_admitted_of_applyUrl hmade h
  exact applyUrl_of_admitted hclean hne hadmitted

/-- **The filter is exact on URLs with a scheme**: they pass as they are read, or not at all. -/
theorem applyUrl_of_scheme {scheme : String} (hscheme : scheme? (canonical value) = some scheme)
    (out : String) :
    applyUrl (forUrl c coordinate.isSome) c value policy coordinate = .ok out ↔
      policy.allowsScheme c scheme = true ∧ out = canonical value := by
  have hkind := Link.classify_of_scheme hscheme
  have hne : canonical value ≠ "" := by
    intro hempty
    rw [hempty, scheme?_eq_standardScheme] at hscheme
    cases hscheme
  rw [applyUrl_eq_ok_iff, rewrite_absolute hkind hne, Except.ok.injEq]
  constructor
  · rintro ⟨-, -, rfl, hallowed⟩
    exact ⟨hallowed scheme hscheme, rfl⟩
  · rintro ⟨hallowed, rfl⟩
    exact ⟨hne, by simp [hkind, Link.isRelativePath], rfl, by simpa [hscheme] using hallowed⟩

end

/-- The value of any attribute is written only if it is written again. -/
theorem apply_forAttribute_idempotent {policy : Policy} {coordinate : Option Coordinate}
    {tag name value out : String} (hmade : ∀ r ∈ coordinate, r.Made)
    (h : (forAttribute tag name coordinate.isSome).apply value policy coordinate = .ok out) :
    (forAttribute tag name coordinate.isSome).apply out policy coordinate = .ok out := by
  cases hclass : urlClass tag name with
  | none =>
      rw [forAttribute, hclass]
      rfl
  | some c =>
      rw [forAttribute_of_urlClass hclass, apply_forUrl] at h ⊢
      exact applyUrl_idempotent hmade h

/-- **What the filter gives, and when.** A URL that it gives is read by the standard's parser as it
is written, and exactly one of three things holds of it: its scheme is allowed, it is an anchor, or
it is relative, where relative URLs are allowed and no repository is known. A value that is read with
a scheme is given as it is read, exactly when the scheme is allowed. -/
theorem apply_forUrl_sound_and_exact (policy : Policy) (coordinate : Option Coordinate)
    (hmade : ∀ r ∈ coordinate, r.Made) (c : UrlClass) (value : String) :
    (∀ out, (forUrl c coordinate.isSome).apply value policy coordinate = .ok out →
      (∀ text, Reads out.toList text ↔ text = out.toList) ∧
        (HasAllowedScheme policy c out.toList ∨ IsAnchor out.toList ∨
          (IsRelative out.toList ∧ coordinate = none ∧ policy.allowsRelative c = true)) ∧
        ¬(HasAllowedScheme policy c out.toList ∧ IsAnchor out.toList) ∧
        ¬(HasAllowedScheme policy c out.toList ∧ IsRelative out.toList) ∧
        ¬(IsAnchor out.toList ∧ IsRelative out.toList)) ∧
    ∀ text scheme, Reads value.toList text → standardScheme text = some scheme →
      ((∃ out, (forUrl c coordinate.isSome).apply value policy coordinate = .ok out) ↔
        policy.allowsScheme c (String.ofList scheme) = true) ∧
      ∀ out, (forUrl c coordinate.isSome).apply value policy coordinate = .ok out →
        out = String.ofList text := by
  simp only [apply_forUrl]
  constructor
  · intro out h
    obtain ⟨hclean, -, hadmitted⟩ := clean_admitted_of_applyUrl hmade h
    refine ⟨fun text => ⟨fun hreads => ?_, ?_⟩, ?_, ?_, ?_, ?_⟩
    · have htext := hreads.eq_canonical
      rwa [String.ofList_toList, (canonical_eq_self_iff out).2 hclean] at htext
    · rintro rfl
      exact hclean.reads
    · cases hadmitted with
      | scheme h => exact .inl h
      | anchor h => exact .inr (.inl h)
      | relative h hunknown hallowed => exact .inr (.inr ⟨h, hunknown, hallowed⟩)
    · rintro ⟨⟨scheme, hscheme, -⟩, hnone, -⟩
      simp [hnone] at hscheme
    · rintro ⟨⟨scheme, hscheme, -⟩, hnone, -⟩
      simp [hnone] at hscheme
    · rintro ⟨⟨-, hanchor⟩, -, hnot, -⟩
      exact hnot hanchor
  · intro text scheme hreads hscheme
    have htext : text = (canonical value).toList := by
      rw [hreads.eq_canonical, String.ofList_toList]
    have hfound : scheme? (canonical value) = some (String.ofList scheme) := by
      rw [scheme?_eq_standardScheme, ← htext, hscheme]
      rfl
    rw [htext, String.ofList_toList]
    constructor
    · constructor
      · rintro ⟨out, h⟩
        exact ((applyUrl_of_scheme hfound out).1 h).1
      · exact fun hallowed => ⟨_, (applyUrl_of_scheme hfound _).2 ⟨hallowed, rfl⟩⟩
    · exact fun out h => ((applyUrl_of_scheme hfound out).1 h).2

/-- A path with a blank in a document of a repository, and a scheme that a tab hides. -/
theorem apply_forUrl_sound_and_exact_raw :
    let r : Coordinate := ⟨"github.com", "o/r", ["docs"]⟩
    let out := "https://raw.githubusercontent.com/o/r/HEAD/docs/a%20b.png#x"
    r.Made ∧ (forUrl .media true).apply " a b.png#x\n" Policy.packagist (some r) = .ok out ∧
      (∀ text, Reads out.toList text ↔ text = out.toList) ∧
      ¬∃ out, (forUrl .link true).apply "java\tscript:x" Policy.packagist (some r) = .ok out := by
  intro r out
  have hmade : r.Made := ⟨"github.com", "o/r", "docs", eq_ok_of_toOption (by decide +kernel)⟩
  have hout : (forUrl .media true).apply " a b.png#x\n" Policy.packagist (some r) = .ok out :=
    eq_ok_of_toOption (by decide +kernel)
  have hcoordinate : ∀ r' ∈ some r, r'.Made := by
    rintro r' ⟨⟩
    exact hmade
  have hreads : Reads "java\tscript:x".toList "javascript:x".toList := by
    have h := reads_canonical "java\tscript:x"
    rwa [show canonical "java\tscript:x" = "javascript:x" by decide +kernel] at h
  have hfilter := apply_forUrl_sound_and_exact Policy.packagist (some r) hcoordinate
  have hscheme := (hfilter .link _).2 _ "javascript".toList hreads (by decide +kernel)
  refine ⟨hmade, hout, ((hfilter .media _).1 out hout).1, fun haccepted => ?_⟩
  exact absurd (hscheme.1.1 haccepted) (by decide +kernel)

end Rule

end SafeReadme
