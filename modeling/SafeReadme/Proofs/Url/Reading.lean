import Mathlib.Data.List.DropRight
import Mathlib.Data.List.TakeDrop
import SafeReadme.Url.Basic

/-!
# How the URL standard reads a text

`Reads value text` says which text the standard's parser looks at when it is given `value`, and
`standardScheme` runs its two states for schemes over that text. `canonical` is the one text that is
read, and `scheme?` finds the scheme that the states find.
-/

namespace SafeReadme.Url

/-! ## The text that is read -/

/-- Given `value`, the standard's parser looks at `text`: C0 controls and spaces at both ends are
gone as far as they go, and of the rest every tab and newline. -/
def Reads (value text : List Char) : Prop :=
  ∃ before body after, value = before ++ body ++ after ∧
    (∀ c ∈ before, isControlOrSpace c = true) ∧ (∀ c ∈ after, isControlOrSpace c = true) ∧
      (∀ c ∈ body.head?, isControlOrSpace c = false) ∧
        (∀ c ∈ body.getLast?, isControlOrSpace c = false) ∧
          text = body.filter (fun c => !isTabOrNewline c)

/-- A text that has nothing which a reader would take away. -/
structure IsClean (text : List Char) : Prop where
  unbroken : ∀ c ∈ text, isTabOrNewline c = false
  head : ∀ c ∈ text.head?, isControlOrSpace c = false
  last : ∀ c ∈ text.getLast?, isControlOrSpace c = false

theorem isClean_iff {text : List Char} :
    IsClean text ↔ text.all (fun c => !isTabOrNewline c) = true ∧
      text.head?.all (fun c => !isControlOrSpace c) = true ∧
        text.getLast?.all (fun c => !isControlOrSpace c) = true := by
  have hall : ∀ o : Option Char, o.all (fun c => !isControlOrSpace c) = true ↔
      ∀ c ∈ o, isControlOrSpace c = false := by
    intro o
    cases o <;> simp
  rw [hall, hall]
  exact ⟨fun h => ⟨by simpa using h.unbroken, h.head, h.last⟩,
    fun ⟨unbroken, head, last⟩ => ⟨by simpa using unbroken, head, last⟩⟩

instance (text : List Char) : Decidable (IsClean text) :=
  decidable_of_iff' _ isClean_iff

theorem isControlOrSpace_of_isTabOrNewline {c : Char} (h : isTabOrNewline c = true) :
    isControlOrSpace c = true := by
  simp only [isTabOrNewline, Bool.or_eq_true, beq_iff_eq] at h
  rcases h with (rfl | rfl) | rfl <;> decide

theorem unbroken_of_all {cs : List Char} (h : cs.all (fun c => !isTabOrNewline c) = true) :
    ∀ c ∈ cs, isTabOrNewline c = false := by
  simpa using h

theorem IsClean.reads {text : List Char} (h : IsClean text) : Reads text text := by
  refine ⟨[], text, [], by simp, by simp, by simp, h.head, h.last, ?_⟩
  rw [List.filter_eq_self.2]
  intro c hc
  simp [h.unbroken c hc]

theorem dropWhile_eq_self_of_head {p : Char → Bool} {cs : List Char}
    (h : ∀ c ∈ cs.head?, p c = false) : cs.dropWhile p = cs := by
  cases cs with
  | nil => rfl
  | cons c rest => exact List.dropWhile_cons_of_neg (by simp [h c (by simp)])

theorem head_dropWhile {p : Char → Bool} {cs : List Char} :
    ∀ c ∈ (cs.dropWhile p).head?, p c = false := by
  intro c hc
  have h := List.head?_dropWhile_not p cs
  rw [Option.mem_def] at hc
  rwa [hc] at h

/-- Trimming takes away what surrounds a text that starts and ends with characters to keep. -/
theorem trimBy_append {p : Char → Bool} {before body after : List Char}
    (hbefore : ∀ c ∈ before, p c = true) (hafter : ∀ c ∈ after, p c = true)
    (hhead : ∀ c ∈ body.head?, p c = false) (hlast : ∀ c ∈ body.getLast?, p c = false) :
    Text.trimBy p (before ++ body ++ after) = body := by
  have hfront : (before ++ body ++ after).dropWhile p = (body ++ after).dropWhile p := by
    rw [List.append_assoc]
    exact List.dropWhile_append_of_pos hbefore
  rw [Text.trimBy, hfront]
  cases body with
  | nil =>
      rw [List.nil_append, List.dropWhile_eq_nil_iff.2 hafter]
      rfl
  | cons c rest =>
      have hkeep : (c :: rest ++ after).dropWhile p = c :: rest ++ after :=
        List.dropWhile_cons_of_neg (by simp [hhead c (by simp)])
      have hback : ∀ c' ∈ (c :: rest).reverse.head?, p c' = false := by
        rwa [List.head?_reverse]
      rw [hkeep, Text.dropWhileEnd, List.reverse_append,
        List.dropWhile_append_of_pos (by simpa using hafter), dropWhile_eq_self_of_head hback,
        List.reverse_reverse]

theorem exists_trimBy (p : Char → Bool) (cs : List Char) :
    ∃ before after, cs = before ++ Text.trimBy p cs ++ after ∧ (∀ c ∈ before, p c = true) ∧
      (∀ c ∈ after, p c = true) ∧ (∀ c ∈ (Text.trimBy p cs).head?, p c = false) ∧
        (∀ c ∈ (Text.trimBy p cs).getLast?, p c = false) := by
  have hback : cs.dropWhile p = Text.trimBy p cs ++ (cs.dropWhile p).rtakeWhile p :=
    List.rdropWhile_append_rtakeWhile.symm
  refine ⟨cs.takeWhile p, (cs.dropWhile p).rtakeWhile p, ?_, ?_, ?_, ?_, ?_⟩
  · rw [List.append_assoc, ← hback, List.takeWhile_append_dropWhile]
  · exact fun c hc => List.mem_takeWhile_imp hc
  · exact fun c hc => List.mem_rtakeWhile_imp hc
  · intro c hc
    apply head_dropWhile
    rw [hback, List.head?_append, hc]
    rfl
  · intro c hc
    rw [Text.trimBy, Text.dropWhileEnd, List.getLast?_reverse] at hc
    exact head_dropWhile c hc

theorem reads_canonical (value : String) : Reads value.toList (canonical value).toList := by
  obtain ⟨before, after, hsplit, hbefore, hafter, hhead, hlast⟩ :=
    exists_trimBy isControlOrSpace value.toList
  exact ⟨before, _, after, hsplit, hbefore, hafter, hhead, hlast, by simp [canonical]⟩

theorem Reads.eq_canonical {value text : List Char} (h : Reads value text) :
    text = (canonical (String.ofList value)).toList := by
  obtain ⟨before, body, after, rfl, hbefore, hafter, hhead, hlast, rfl⟩ := h
  rw [canonical, String.toList_ofList, String.toList_ofList,
    trimBy_append hbefore hafter hhead hlast]

/-- What is read is clean: the ends of the trimmed text are not among what goes from it. -/
theorem isClean_canonical (value : String) : IsClean (canonical value).toList := by
  obtain ⟨before, after, -, -, -, hhead, hlast⟩ :=
    exists_trimBy isControlOrSpace value.toList
  have hkept : ∀ c : Char, isControlOrSpace c = false → (!isTabOrNewline c) = true := by
    intro c hc
    by_contra h
    rw [isControlOrSpace_of_isTabOrNewline (by simpa using h)] at hc
    exact Bool.noConfusion hc
  rw [canonical, String.toList_ofList]
  refine ⟨?_, ?_, ?_⟩
  · intro c hc
    simpa using (List.mem_filter.1 hc).2
  · cases htext : Text.trimBy isControlOrSpace value.toList with
    | nil => simp
    | cons c rest =>
        have hc : isControlOrSpace c = false := hhead c (by rw [htext]; rfl)
        rw [List.filter_cons_of_pos (by exact hkept c hc)]
        simpa using hc
  · rcases List.eq_nil_or_concat (Text.trimBy isControlOrSpace value.toList) with
      htext | ⟨rest, c, htext⟩
    · simp [htext]
    · rw [List.concat_eq_append] at htext
      have hc : isControlOrSpace c = false := hlast c (by rw [htext]; simp)
      rw [htext, List.filter_append, List.filter_cons_of_pos (by exact hkept c hc)]
      simpa using hc

theorem canonical_eq_self_iff (text : String) : canonical text = text ↔ IsClean text.toList := by
  constructor
  · intro h
    rw [← h]
    exact isClean_canonical text
  · intro h
    have heq := h.reads.eq_canonical
    rw [String.ofList_toList] at heq
    exact String.toList_inj.1 heq.symm

@[simp] theorem canonical_canonical (value : String) :
    canonical (canonical value) = canonical value :=
  (canonical_eq_self_iff _).2 (isClean_canonical value)

/-! ## The scheme -/

/-- The scheme state of the standard: the scheme so far, and the characters that follow. -/
def schemeState (scheme : List Char) : List Char → Option (List Char)
  | [] => none
  | c :: rest =>
      if c.isAlphanum || c == '+' || c == '-' || c == '.' then
        schemeState (scheme ++ [c.toLower]) rest
      else if c == ':' then some scheme
      else none

/-- The scheme start state of the standard: the scheme of a text in lower case, if it has one. -/
def standardScheme : List Char → Option (List Char)
  | [] => none
  | c :: rest => if c.isAlpha then schemeState [c.toLower] rest else none

theorem not_isSchemeChar_colon : isSchemeChar ':' = false := by decide

/-- The state reads on up to the first colon. -/
theorem schemeState_eq (scheme cs : List Char) :
    schemeState scheme cs =
      if ':' ∈ cs ∧ (cs.takeWhile (· != ':')).all isSchemeChar = true then
        some (scheme ++ (cs.takeWhile (· != ':')).map Char.toLower)
      else none := by
  induction cs generalizing scheme with
  | nil => simp [schemeState]
  | cons c rest ih =>
      rw [schemeState, ← isSchemeChar.eq_1]
      by_cases hcolon : c = ':'
      · subst hcolon
        simp [not_isSchemeChar_colon]
      · have hkeep : (c != ':') = true := by simpa using hcolon
        rw [List.takeWhile_cons_of_pos (by exact hkeep)]
        by_cases hc : isSchemeChar c = true
        · rw [if_pos hc, ih]
          simp [hc, Ne.symm hcolon]
        · rw [if_neg hc]
          simp [hc, hcolon]

theorem scheme?_eq (link : String) :
    scheme? link =
      if ':' ∈ link.toList ∧ isScheme (link.toList.takeWhile (· != ':')) = true then
        some (String.ofList (link.toList.takeWhile (· != ':'))).toLower
      else none := by
  rw [scheme?, List.span_eq_takeWhile_dropWhile]
  cases hrest : link.toList.dropWhile (· != ':') with
  | nil =>
      have hnone : ':' ∉ link.toList := by
        intro hmem
        simpa using List.dropWhile_eq_nil_iff.1 hrest ':' hmem
      simp [hnone]
  | cons c rest =>
      have hmem : ':' ∈ link.toList := by
        by_contra hnone
        have hnil : link.toList.dropWhile (· != ':') = [] :=
          List.dropWhile_eq_nil_iff.2 fun c hc => by
            simpa using fun heq : c = ':' => hnone (heq ▸ hc)
        simp [hnil] at hrest
      simp [hmem]

theorem toLower_ofList (cs : List Char) :
    (String.ofList cs).toLower = String.ofList (cs.map Char.toLower) := by
  show (String.ofList cs).map Char.toLower = _
  rw [← String.toList_inj, String.toList_map, String.toList_ofList, String.toList_ofList]

theorem scheme?_eq_standardScheme (link : String) :
    scheme? link = (standardScheme link.toList).map String.ofList := by
  rw [scheme?_eq]
  cases link.toList with
  | nil => simp [standardScheme]
  | cons c rest =>
      rw [standardScheme]
      by_cases halpha : c.isAlpha = true
      · have hcolon : c ≠ ':' := by
          rintro rfl
          exact absurd halpha (by decide)
        rw [if_pos halpha, schemeState_eq, List.takeWhile_cons_of_pos (by simpa using hcolon)]
        by_cases h : ':' ∈ rest ∧ (rest.takeWhile (· != ':')).all isSchemeChar = true
        · rw [if_pos h, if_pos (by simp [isScheme, halpha, h.1, h.2])]
          rw [toLower_ofList]
          rfl
        · rw [if_neg h, if_neg (by simpa [isScheme, halpha, Ne.symm hcolon] using h)]
          rfl
      · rw [if_neg halpha]
        by_cases hcolon : c = ':'
        · subst hcolon
          simp [isScheme]
        · rw [List.takeWhile_cons_of_pos (by simpa using hcolon)]
          simp [isScheme, halpha]

theorem scheme?_https (rest : String) : scheme? ("https://" ++ rest) = some "https" := by
  rw [scheme?_eq_standardScheme, String.toList_append]
  rfl

end SafeReadme.Url
