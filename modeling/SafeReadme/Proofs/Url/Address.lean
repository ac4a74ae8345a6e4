import Mathlib.Data.List.TakeWhile
import SafeReadme.Proofs.Url.Reading
import SafeReadme.Url.Address

/-!
# Addresses read from their parts

An address that is written as `https://`, an authority without user information, a path and a suffix
is read part by part. What follows the path cannot change what is read before it, and segments that
are no dot segments are all kept.
-/

namespace SafeReadme

/-! ## Fields -/

namespace Text

theorem breakAt_append {p : Char → Bool} {front back : List Char} (hfront : ∀ c ∈ front, p c = false)
    (hback : ∀ c ∈ back.head?, p c = true) : breakAt p (front ++ back) = (front, back) := by
  have hpass : ∀ c ∈ front, (!p c) = true := by
    intro c hc
    simp [hfront c hc]
  rw [breakAt, List.span_eq_takeWhile_dropWhile, List.takeWhile_append_of_pos hpass,
    List.dropWhile_append_of_pos hpass]
  cases back with
  | nil => simp
  | cons c more => simp [hback c rfl]

theorem fields_cons (p : Char → Bool) (c : Char) (cs : List Char) :
    fields p (c :: cs) =
      if p c then [] :: fields p cs
      else
        match fields p cs with
        | [] => [[c]]
        | first :: rest => (c :: first) :: rest :=
  rfl

theorem fields_of_not {p : Char → Bool} {cs : List Char} (h : ∀ c ∈ cs, p c = false) :
    fields p cs = [cs] := by
  induction cs with
  | nil => rfl
  | cons c cs ih =>
      rw [fields_cons, h c (by simp), ih fun d hd => h d (List.mem_cons_of_mem _ hd)]
      rfl

theorem fields_append_cons {p : Char → Bool} {front : List Char} (h : ∀ c ∈ front, p c = false)
    {c : Char} (hc : p c = true) (cs : List Char) :
    fields p (front ++ c :: cs) = front :: fields p cs := by
  induction front with
  | nil => rw [List.nil_append, fields_cons, if_pos hc]
  | cons d front ih =>
      rw [List.cons_append, fields_cons, h d (by simp),
        ih fun e he => h e (List.mem_cons_of_mem _ he)]
      rfl

theorem fields_ne_nil (p : Char → Bool) (cs : List Char) : fields p cs ≠ [] := by
  cases cs with
  | nil => simp [fields]
  | cons c rest =>
      rw [fields_cons]
      split
      · simp
      · split <;> simp

theorem fields_append {p : Char → Bool} {c : Char} (hc : p c = true) (front back : List Char) :
    fields p (front ++ c :: back) = fields p front ++ fields p back := by
  induction front with
  | nil =>
      rw [List.nil_append, fields_cons, if_pos hc]
      rfl
  | cons d front ih =>
      rw [List.cons_append, fields_cons, fields_cons, ih]
      split
      · rfl
      · obtain ⟨first, rest, hfront⟩ := List.exists_cons_of_ne_nil (fields_ne_nil p front)
        rw [hfront]
        rfl

theorem not_separator_of_mem_fields {p : Char → Bool} {cs field : List Char}
    (h : field ∈ fields p cs) : ∀ c ∈ field, p c = false := by
  induction cs generalizing field with
  | nil =>
      obtain rfl := List.mem_singleton.1 h
      simp
  | cons c rest ih =>
      rw [fields_cons] at h
      split at h
      · rcases List.mem_cons.1 h with rfl | h
        · simp
        · exact ih h
      next hc =>
        obtain ⟨first, more, hrest⟩ := List.exists_cons_of_ne_nil (fields_ne_nil p rest)
        rw [hrest] at h ih
        rcases List.mem_cons.1 h with rfl | h
        · intro d hd
          rcases List.mem_cons.1 hd with rfl | hd
          · simpa using hc
          · exact ih (by simp) d hd
        · exact ih (List.mem_cons_of_mem _ h)

theorem fields_congr {p q : Char → Bool} {cs : List Char} (h : ∀ c ∈ cs, p c = q c) :
    fields p cs = fields q cs := by
  induction cs with
  | nil => rfl
  | cons c rest ih =>
      rw [fields_cons, fields_cons, h c (by simp), ih fun d hd => h d (List.mem_cons_of_mem _ hd)]

theorem joinWith_splitAt (s : String) : joinWith "/" (splitAt '/' s) = s := by
  have hchars : ∀ cs : List Char,
      (joinWith "/" ((fields (· == '/') cs).map String.ofList)).toList = cs := by
    intro cs
    induction cs with
    | nil => rfl
    | cons c rest ih =>
        obtain ⟨first, more, hrest⟩ := List.exists_cons_of_ne_nil (fields_ne_nil (· == '/') rest)
        rw [hrest] at ih
        rw [fields_cons, hrest]
        split
        next hc =>
          obtain rfl : c = '/' := by simpa using hc
          rw [List.map_cons, List.map_cons, joinWith, String.intercalate_cons_cons,
            ← List.map_cons, String.toList_append]
          exact congrArg ('/' :: ·) ih
        · cases more with
          | nil =>
              rw [List.map_singleton, joinWith, String.intercalate_singleton] at ih ⊢
              rw [String.toList_ofList] at ih ⊢
              rw [ih]
          | cons second more =>
              rw [List.map_cons, List.map_cons, joinWith, String.intercalate_cons_cons] at ih ⊢
              simp only [String.toList_append, String.toList_ofList, List.cons_append] at ih ⊢
              rw [ih]
  rw [← String.toList_inj]
  exact hchars s.toList

theorem fields_joinWith {p : Char → Bool} (hslash : p '/' = true) {parts : List String}
    (hne : parts ≠ []) (h : ∀ part ∈ parts, ∀ c ∈ part.toList, p c = false) :
    fields p (joinWith "/" parts).toList = parts.map String.toList := by
  induction parts with
  | nil => exact absurd rfl hne
  | cons first rest ih =>
      have hfirst := h first (by simp)
      cases rest with
      | nil =>
          rw [joinWith, String.intercalate_singleton, fields_of_not hfirst]
          rfl
      | cons second rest =>
          have hmore := ih (by simp) fun part hpart => h part (List.mem_cons_of_mem _ hpart)
          have hchars : (joinWith "/" (first :: second :: rest)).toList =
              first.toList ++ '/' :: (joinWith "/" (second :: rest)).toList := by
            rw [joinWith, String.intercalate_cons_cons, String.toList_append, String.toList_append,
              List.append_assoc]
            rfl
          rw [hchars, fields_append_cons hfirst hslash, hmore]
          rfl

theorem splitAt_joinWith {parts : List String} (hne : parts ≠ [])
    (h : ∀ part ∈ parts, '/' ∉ part.toList) : splitAt '/' (joinWith "/" parts) = parts := by
  have hslash : ∀ part ∈ parts, ∀ c ∈ part.toList, (c == '/') = false := by
    intro part hpart c hc
    simpa using fun heq : c = '/' => h part hpart (heq ▸ hc)
  rw [splitAt, fields_joinWith rfl hne hslash, List.map_map]
  simp [Function.comp_def]

theorem not_mem_of_mem_splitAt {s part : String} (h : part ∈ splitAt '/' s) : '/' ∉ part.toList := by
  obtain ⟨field, hfield, rfl⟩ := List.mem_map.1 h
  rw [String.toList_ofList]
  intro hmem
  simpa using not_separator_of_mem_fields hfield '/' hmem

end Text

namespace Url

/-! ## The text that is read -/

theorem dropWhileEnd_append {p : Char → Bool} {front : List Char}
    (h : ∀ c ∈ front.getLast?, p c = false) (back : List Char) :
    Text.dropWhileEnd p (front ++ back) = front ++ Text.dropWhileEnd p back := by
  have hfront : front.reverse.dropWhile p = front.reverse :=
    dropWhile_eq_self_of_head (by rwa [List.head?_reverse])
  rw [Text.dropWhileEnd, Text.dropWhileEnd, List.reverse_append, List.dropWhile_append, hfront]
  cases hback : back.reverse.dropWhile p with
  | nil => simp
  | cons c more => simp

/-- The front of a text is read as it is written, if nothing can be taken away from it. -/
theorem canonical_append {front : List Char} (h : IsClean front) (hne : front ≠ [])
    (back : List Char) :
    ∃ rest, (canonical (String.ofList (front ++ back))).toList = front ++ rest := by
  have hhead : ∀ c ∈ (front ++ back).head?, isControlOrSpace c = false := by
    cases front with
    | nil => exact absurd rfl hne
    | cons c more => exact h.head
  have hkept : front.filter (fun c => !isTabOrNewline c) = front := by
    rw [List.filter_eq_self]
    intro c hc
    simp [h.unbroken c hc]
  refine ⟨(Text.dropWhileEnd isControlOrSpace back).filter (fun c => !isTabOrNewline c), ?_⟩
  rw [canonical, String.toList_ofList, String.toList_ofList, Text.trimBy,
    dropWhile_eq_self_of_head hhead, dropWhileEnd_append h.last, List.filter_append, hkept]

/-! ## The path -/

namespace Address

def pathText (a : Address) : String :=
  "/" ++ Text.joinWith "/" a.path

theorem resolveSegments_eq_append {segments : List (List Char)}
    (h : ∀ s ∈ segments, isSingleDot s = false ∧ isDoubleDot s = false) (path : List (List Char)) :
    resolveSegments path segments = path ++ segments := by
  induction segments generalizing path with
  | nil => rw [resolveSegments, List.append_nil]
  | cons s rest ih =>
      obtain ⟨hsingle, hdouble⟩ := h s (by simp)
      have hrest := ih (fun t ht => h t (List.mem_cons_of_mem _ ht)) (path ++ [s])
      rw [resolveSegments]
      simp only [hsingle, hdouble, Bool.or_self, Bool.false_eq_true, if_false]
      rw [hrest, List.append_assoc, List.singleton_append]

theorem readPath_joinWith {parts : List String} (hne : parts ≠ [])
    (hslash : ∀ part ∈ parts, ∀ c ∈ part.toList, isSlash c = false)
    (hdots : ∀ part ∈ parts, isSingleDot part.toList = false ∧ isDoubleDot part.toList = false) :
    readPath ('/' :: (Text.joinWith "/" parts).toList) =
      parts.map fun part => escapeSegment part.toList := by
  have hfields := Text.fields_joinWith (p := isSlash) rfl hne hslash
  have hall : ∀ s ∈ parts.map String.toList, isSingleDot s = false ∧ isDoubleDot s = false := by
    intro s hs
    obtain ⟨part, hpart, rfl⟩ := List.mem_map.1 hs
    exact hdots part hpart
  have hhead : ((('/' :: (Text.joinWith "/" parts).toList).head?.map isSlash).getD false) = true :=
    rfl
  rw [readPath, if_pos hhead, List.drop_one, List.tail_cons, hfields,
    resolveSegments_eq_append hall, List.nil_append, List.map_map]
  rfl

/-! ## The authority -/

theorem splitUserinfo_of_not_mem {cs : List Char} (h : '@' ∉ cs) : splitUserinfo cs = ([], cs) := by
  have hall : ∀ c ∈ cs.reverse, (c != '@') = true := by
    intro c hc
    simpa using fun heq : c = '@' => h (heq ▸ List.mem_reverse.1 hc)
  rw [splitUserinfo, List.span_eq_takeWhile_dropWhile, List.dropWhile_eq_nil_iff.2 hall]

theorem breakAt_authority {site : List Char} (hne : site ≠ [])
    (hsite : ∀ c ∈ site, endsAuthority c = false) (rest : List Char) :
    Text.breakAt endsAuthority (('/' :: '/' :: (site ++ '/' :: rest)).dropWhile isSlash) =
      (site, '/' :: rest) := by
  have hslashes : (('/' :: '/' :: (site ++ '/' :: rest)).dropWhile isSlash) =
      site ++ '/' :: rest := by
    obtain ⟨c, more, rfl⟩ := List.exists_cons_of_ne_nil hne
    have hc : isSlash c = false := by
      have hends := hsite c (by simp)
      simp only [endsAuthority, Bool.or_eq_false_iff] at hends
      exact hends.1.1
    rw [List.dropWhile_cons_of_pos rfl, List.dropWhile_cons_of_pos rfl, List.cons_append,
      List.dropWhile_cons_of_neg (by simp [hc])]
  rw [hslashes]
  apply Text.breakAt_append hsite
  intro c hc
  obtain rfl : '/' = c := by simpa using hc
  rfl

/-- The host and the port that an authority without user information writes. -/
def authority? (site : List Char) : Option (Host × Option Nat) :=
  let (hostText, portText) := splitPort false site
  if hostText.isEmpty then none
  else do
    let host ← Host.parse? hostText
    let port ← port? 443 (portText.getD [])
    return (host, port)

theorem breakAt_path {path suffix : List Char} (hpath : ∀ c ∈ path, c ≠ '?' ∧ c ≠ '#')
    (hsuffix : ∀ c ∈ suffix.head?, c = '?' ∨ c = '#') :
    (Text.breakAt (· == '?') (Text.breakAt (· == '#') ('/' :: (path ++ suffix))).1).1 =
      '/' :: path := by
  have hfirst : ∀ (p : Char → Bool) (cs : List Char),
      (Text.breakAt p cs).1 = cs.takeWhile (fun c => !p c) := by
    intro p cs
    rw [Text.breakAt, List.span_eq_takeWhile_dropWhile]
  have hpass : ∀ c ∈ '/' :: path, decide ((!(c == '?')) = true ∧ (!(c == '#')) = true) = true := by
    intro c hc
    rcases List.mem_cons.1 hc with rfl | hc
    · rfl
    · simpa using hpath c hc
  rw [hfirst, hfirst, List.takeWhile_takeWhile, ← List.cons_append,
    List.takeWhile_append_of_pos hpass]
  cases suffix with
  | nil => simp
  | cons c more => rcases hsuffix c rfl with rfl | rfl <;> simp

/-- **An address is read part by part.** Whatever follows the path, the authority alone decides
whether there is an address, and its host, its port and its path are those that were written. -/
theorem parse?_https {text : String} {site path suffix : List Char}
    (hread : (canonical text).toList = "https://".toList ++ (site ++ '/' :: (path ++ suffix)))
    (hne : site ≠ []) (hsite : ∀ c ∈ site, endsAuthority c = false ∧ c ≠ '@')
    (hpath : ∀ c ∈ path, c ≠ '?' ∧ c ≠ '#') (hsuffix : ∀ c ∈ suffix.head?, c = '?' ∨ c = '#') :
    ∃ query fragment, parse? text = (authority? site).map fun found =>
      ⟨"https", "", "", found.1, found.2, readPath ('/' :: path), query, fragment⟩ := by
  have hscheme : scheme? (canonical text) = some "https" := by
    rw [← String.ofList_toList (s := canonical text), hread, String.ofList_append,
      String.ofList_toList]
    exact scheme?_https _
  have hdefault : defaultPorts.lookup "https" = some 443 := rfl
  have hafter : ((canonical text).toList.dropWhile (· != ':')).drop 1 =
      '/' :: '/' :: (site ++ '/' :: (path ++ suffix)) := by
    rw [hread]
    rfl
  have hauthority := breakAt_authority hne (fun c hc => (hsite c hc).1) (path ++ suffix)
  have huserinfo : splitUserinfo site = ([], site) :=
    splitUserinfo_of_not_mem fun hmem => (hsite '@' hmem).2 rfl
  have hpathText := breakAt_path hpath hsuffix
  cases hfragment : Text.breakAt (· == '#') ('/' :: (path ++ suffix)) with
  | mk beforeFragment fragment =>
    cases hquery : Text.breakAt (· == '?') beforeFragment with
    | mk before query =>
      have hbefore : before = '/' :: path := by
        rw [hfragment, hquery] at hpathText
        exact hpathText
      subst hbefore
      unfold parse? authority?
      simp only [hscheme, hdefault, hafter, hauthority, huserinfo, hfragment, hquery,
        Option.bind_eq_bind, Option.bind_some]
      -- What is left to decide is whether there are a host and a port.
      split
      · exact ⟨none, none, rfl⟩
      · cases Host.parse? (splitPort false site).1 with
        | none => exact ⟨none, none, rfl⟩
        | some host =>
            cases port? 443 ((splitPort false site).2.getD []) with
            | none => exact ⟨none, none, rfl⟩
            | some port => exact ⟨_, _, rfl⟩

end Address

end Url

end SafeReadme
