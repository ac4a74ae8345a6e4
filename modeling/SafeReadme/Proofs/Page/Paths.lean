import SafeReadme.Page
import SafeReadme.Proofs.Html.Unique
import SafeReadme.Proofs.Page.ImageMirror
import SafeReadme.Proofs.Page.LeadingTitle
import SafeReadme.Proofs.Sanitize.Resolving
import SafeReadme.Proofs.Url.Address

/-!
# Paths on a page

Where a repository is known, no path is left on the page but those that the policy sets itself. So a
document looks the same with a repository and without one exactly if without one no path is shown.
-/

namespace SafeReadme

open Html

/-! ## Values -/

/-- What starts like an address on the web is no path, whatever follows. -/
theorem Rule.not_namesPath_of_https {value : String} (h : "https://".toList <+: value.toList) :
    ¬NamesPath value := by
  intro hpath
  obtain ⟨rest, hvalue⟩ := h
  have hclean : Url.IsClean "https://".toList := by
    rw [← Url.canonical_eq_self_iff]
    decide
  obtain ⟨more, hmore⟩ := Url.canonical_append hclean (by decide) rest
  rw [hvalue, String.ofList_toList] at hmore
  have hcanonical : Url.canonical value = "https://" ++ String.ofList more := by
    rw [← String.toList_inj, hmore]
    simp
  have hscheme := scheme?_of_namesPath hpath
  rw [hcanonical, Url.scheme?_https] at hscheme
  cases hscheme

theorem Rule.not_namesPath_of_applyUrl {policy : Policy} {r : Coordinate} {c : UrlClass}
    {value out : String} (hmade : ∀ r' ∈ some r, r'.Made)
    (h : applyUrl (forUrl c true) c value policy (some r) = .ok out) : ¬NamesPath out := by
  intro hpath
  -- A path would be given again, but only by resolving it, and then it starts like an address.
  obtain ⟨-, -, hrewrite, -⟩ := applyUrl_eq_ok_iff.1 (applyUrl_idempotent hmade h)
  have hkind : Link.classify (Url.canonical out) = .rootRelative (Url.canonical out) ∨
      Link.classify (Url.canonical out) = .documentRelative (Url.canonical out) := by
    have hrelative := hpath.2
    rcases Link.classify_of_no_scheme (scheme?_of_namesPath hpath) with
      ⟨-, anchor, hkind⟩ | ⟨-, -, hkind⟩ | ⟨-, -, hkind⟩
    · rw [hkind] at hrelative
      cases hrelative
    · rw [hkind] at hrelative
      cases hrelative
    · exact hkind
  change rewrite (forUrl c (some r).isSome) _ (some r) = _ at hrewrite
  rcases rewrite_relative hkind hrewrite with
    ⟨hunknown, -⟩ | ⟨r', fromRoot, hknown, hraw⟩
  · cases hunknown
  · obtain ⟨-, rest, rfl⟩ := (hmade r' hknown).rawUrl_clean (Url.isClean_canonical _) hraw
    refine not_namesPath_of_https ?_ hpath
    rw [String.toList_append]
    exact List.prefix_append _ _

namespace Page

/-- An address that is moved to the mirror is no path, and was none before. -/
theorem namesPath_mirrorAddress (address : String) :
    Rule.NamesPath (mirrorAddress address) ↔ Rule.NamesPath address := by
  cases hlength : rawLength? address.toList with
  | none => rw [mirrorAddress_of_none hlength]
  | some length =>
      obtain ⟨root, hroot, path, haddress, -⟩ := exists_of_rawLength? hlength
      have hstart : "https://".toList <+: root := by
        simp only [rawRoots, List.mem_cons, List.not_mem_nil, or_false] at hroot
        rcases hroot with rfl | rfl
        · exact ⟨"raw.githubusercontent.com/".toList, rfl⟩
        · exact ⟨"raw.github.com/".toList, rfl⟩
      have hmirror : "https://".toList <+: (mirrorAddress address).toList := by
        rw [← String.ofList_toList (s := address), haddress, mirrorAddress_append hroot,
          String.toList_append]
        exact ⟨"rawcdn.githack.com/".toList ++ (String.ofList path).toList, rfl⟩
      have hbefore : "https://".toList <+: address.toList := by
        rw [haddress]
        exact hstart.trans (List.prefix_append _ _)
      exact iff_of_false (Rule.not_namesPath_of_https hmirror) (Rule.not_namesPath_of_https hbefore)

/-! ## Tags -/

theorem name_mirrorAttribute (a : Attribute) : (mirrorAttribute a).name = a.name := by
  unfold mirrorAttribute
  split
  next h => exact h.symm
  · rfl

theorem namesPath_mirrorAttribute (a : Attribute) :
    Rule.NamesPath (mirrorAttribute a).value ↔ Rule.NamesPath a.value := by
  unfold mirrorAttribute
  split
  · exact namesPath_mirrorAddress a.value
  · exact Iff.rfl

theorem names_mirrorAttributes (tag : String) (attributes : List Attribute) :
    names (mirrorAttributes tag attributes) = names attributes := by
  unfold mirrorAttributes names
  split
  · simp [Function.comp_def, name_mirrorAttribute]
  · rfl

theorem exists_mem_mirrorAttributes {P : Attribute → Prop} (h : ∀ a, P (mirrorAttribute a) ↔ P a)
    (tag : String) (attributes : List Attribute) :
    (∃ a ∈ mirrorAttributes tag attributes, P a) ↔ ∃ a ∈ attributes, P a := by
  unfold mirrorAttributes
  split
  · simp only [List.mem_map, exists_exists_and_eq_and, h]
  · exact Iff.rfl

theorem plain_mirrorPiece {p : Piece} (h : p.Plain) : (mirrorPiece p).Plain := by
  cases p with
  | char c => exact h
  | ending tag => exact h
  | opening tag attributes =>
      obtain ⟨htag, hnames, hdistinct⟩ := h
      have hsame := names_mirrorAttributes tag attributes
      refine ⟨htag, fun b hb => ?_, hsame ▸ hdistinct⟩
      obtain ⟨a, ha, hname⟩ := mem_names.1 (hsame ▸ mem_names.2 ⟨b, hb, rfl⟩)
      exact hname ▸ hnames a ha

end Page

/-- A tag that shows a path which the policy does not set itself. -/
def Policy.HasPath (policy : Policy) : Piece → Prop
  | .opening tag attributes =>
      ∃ a ∈ attributes, (policy.forcedAttributes tag).lookup a.name = none ∧
        Rule.urlClass tag a.name ≠ none ∧ Rule.NamesPath a.value
  | _ => False

/-- A written document in which a tag shows a path. -/
def Policy.ShowsPath (policy : Policy) (html : String) : Prop :=
  ∃ ps : List Piece, (∀ p ∈ ps, p.Plain) ∧ html.toList = ps.flatMap Piece.chars ∧
    ∃ p ∈ ps, policy.HasPath p

theorem Policy.showsPath_iff {policy : Policy} {html : String} {ps : List Piece}
    (hplain : ∀ p ∈ ps, p.Plain) (hchars : html.toList = ps.flatMap Piece.chars) :
    policy.ShowsPath html ↔ ∃ p ∈ ps, policy.HasPath p := by
  constructor
  · rintro ⟨qs, hplain', hchars', h⟩
    rwa [flatMap_chars_inj hplain hplain' (hchars.symm.trans hchars')]
  · exact fun h => ⟨ps, hplain, hchars, h⟩

namespace Page

variable {policy : Policy}

theorem hasPath_mirrorPiece (p : Piece) : policy.HasPath (mirrorPiece p) ↔ policy.HasPath p := by
  cases p with
  | char c => exact Iff.rfl
  | ending tag => exact Iff.rfl
  | opening tag attributes =>
      refine exists_mem_mirrorAttributes (fun a => ?_) tag attributes
      rw [name_mirrorAttribute, namesPath_mirrorAttribute]

/-! ## Pages -/

def shown (presents : Bool) (html : String) : String :=
  if presents then present html else html

def shownPieces (presents : Bool) (nodes : List Node) : List Piece :=
  if presents then (pieces (withoutTitle nodes)).map mirrorPiece else pieces nodes

variable {presents : Bool} {nodes : List Node}

theorem plain_of_mem_shownPieces (h : ∀ e ∈ elements nodes, e.Plain) :
    ∀ p ∈ shownPieces presents nodes, p.Plain := by
  intro p hp
  unfold shownPieces at hp
  split at hp
  · obtain ⟨q, hq, rfl⟩ := List.mem_map.1 hp
    exact plain_mirrorPiece
      (plain_of_mem_pieces (fun e he => h e (elements_withoutTitle e he)) q hq)
  · exact plain_of_mem_pieces h p hp

theorem toList_shown (h : ∀ e ∈ elements nodes, e.Plain) :
    (shown presents (write nodes)).toList = (shownPieces presents nodes).flatMap Piece.chars := by
  unfold shown shownPieces
  split
  · have htitle : ∀ e ∈ elements (withoutTitle nodes), e.Plain :=
      fun e he => h e (elements_withoutTitle e he)
    rw [present, stripLeadingTitle_write h, mirrorImages_write htitle, toList_write,
      pieces_mirrorForest]
  · exact toList_write nodes

/-- A page shows a path if one of the elements does that it is made of. -/
theorem exists_hasPath_of_shown (h : ∃ p ∈ shownPieces presents nodes, policy.HasPath p) :
    ∃ e ∈ elements nodes, policy.HasPath (.opening e.tag e.attributes) := by
  have hfound : ∀ nodes, (∃ p ∈ pieces nodes, policy.HasPath p) →
      ∃ e ∈ elements nodes, policy.HasPath (.opening e.tag e.attributes) := by
    rintro nodes ⟨p, hp, hpath⟩
    rcases mem_pieces nodes hp with ⟨c, rfl⟩ | ⟨e, he, rfl | rfl⟩
    · cases hpath
    · exact ⟨e, he, hpath⟩
    · cases hpath
  obtain ⟨p, hp, hpath⟩ := h
  unfold shownPieces at hp
  split at hp
  · obtain ⟨q, hq, rfl⟩ := List.mem_map.1 hp
    obtain ⟨e, he, hpath⟩ := hfound _ ⟨q, hq, (hasPath_mirrorPiece q).1 hpath⟩
    exact ⟨e, elements_withoutTitle e he, hpath⟩
  · exact hfound nodes ⟨p, hp, hpath⟩

end Page

namespace Sanitizer

variable {s : Sanitizer}

/-- Nothing that is kept where a repository is known is a path. -/
theorem Keeps.not_hasPath {e : Element} (h : s.Keeps e) (hknown : s.coordinate.isSome = true)
    (hmade : ∀ r ∈ s.coordinate, r.Made) :
    ¬s.policy.HasPath (.opening e.tag e.attributes) := by
  obtain ⟨policy, coordinate⟩ := s
  obtain ⟨r, rfl⟩ := Option.isSome_iff_exists.1 hknown
  obtain ⟨source, hfiltered⟩ := h.filtered
  rintro ⟨b, hb, hfree, hclass, hpath⟩
  rw [hfiltered, kept_walkAttributes, List.mem_append] at hb
  rcases hb with hb | hb
  · obtain ⟨-, a, -, hname, hpasses⟩ := mem_kept_walkSource hb
    rw [Passes, hname] at hpasses
    rcases hpasses with hforced | ⟨-, -, hvalue⟩
    · rw [hfree] at hforced
      cases hforced
    · obtain ⟨c, hc⟩ := Option.ne_none_iff_exists'.1 hclass
      rw [Rule.forAttribute_of_urlClass hc, Rule.apply_forUrl] at hvalue
      exact Rule.not_namesPath_of_applyUrl hmade hvalue hpath
  · simpa using List.lookup_eq_none_iff.1 hfree _ (mem_missingForced.1 hb).1

/-- Without paths that the policy does not set, an element is settled with a repository, too. -/
theorem Settled.of_unplaced {e : Element} (h : s.unplaced.Settled e)
    (hpath : ¬s.policy.HasPath (.opening e.tag e.attributes)) : s.Settled e where
  allowed := h.allowed
  notRemoved := h.notRemoved
  distinct := h.distinct
  passes := by
    intro a ha
    rcases h.passes a ha with hforced | ⟨hfree, hallowed, hvalue⟩
    · exact .inl hforced
    · refine .inr ⟨hfree, hallowed, ?_⟩
      cases hcoordinate : s.coordinate with
      | none => exact hvalue
      | some r =>
          refine (Rule.apply_of_not_namesPath fun hclass hvalue => ?_).trans hvalue
          exact hpath ⟨a, ha, hfree, hclass, hvalue⟩
  complete := h.complete
  hasSource := h.hasSource

/-! ## Forests without paths -/

mutual

/-- A node that shows no path is shown alike with a repository. Below a void element, where nothing
is shown, paths may be resolved. -/
theorem pieces_walkNode_of_pathless : ∀ node, (∀ e ∈ Node.elements node, s.unplaced.Settled e) →
    (∀ p ∈ node.pieces, ¬s.policy.HasPath p) →
      ∃ walked, (s.walkNode node).kept = [walked] ∧ walked.pieces = node.pieces ∧
        ∀ rest rest', startsWithNewline (walked :: rest) = startsWithNewline (node :: rest')
  | .text content, _, _ => by
      rw [walkNode]
      exact ⟨.text content, rfl, rfl, fun rest rest' => rfl⟩
  | .element tag attributes children, hsettled, hpath => by
      rw [elements_element] at hsettled
      rw [Node.pieces] at hpath
      have hopening : ¬s.policy.HasPath (.opening tag attributes) := by
        apply hpath
        split <;> simp
      have hself : s.Settled ⟨tag, attributes⟩ := (hsettled _ (by simp)).of_unplaced hopening
      have hattributes := hself.walkAttributes_eq
      have hsource : Rule.requiresSource tag = true →
          "src" ∈ names (s.walkAttributes tag attributes).kept := by
        rw [hattributes]
        exact hself.hasSource
      rw [walkNode_of_allowed hself.notRemoved hself.allowed hsource, hattributes]
      refine ⟨_, rfl, ?_, fun rest rest' => rfl⟩
      rw [Node.pieces, Node.pieces]
      by_cases hvoid : isVoid tag = true
      · rw [if_pos hvoid, if_pos hvoid]
      · rw [if_neg hvoid] at hpath
        obtain ⟨hinner, hnewline⟩ := pieces_walkForest_of_pathless children
          (fun e he => hsettled e (List.mem_cons_of_mem _ he)) (fun p hp => hpath p (by simp [hp]))
        rw [if_neg hvoid, if_neg hvoid, guardPieces, hnewline, hinner, guardPieces]

theorem pieces_walkForest_of_pathless : ∀ nodes, (∀ e ∈ elements nodes, s.unplaced.Settled e) →
    (∀ p ∈ pieces nodes, ¬s.policy.HasPath p) →
      pieces (s.walkForest nodes).kept = pieces nodes ∧
        startsWithNewline (s.walkForest nodes).kept = startsWithNewline nodes
  | [], _, _ => by
      rw [walkForest]
      exact ⟨rfl, rfl⟩
  | node :: rest, hsettled, hpath => by
      rw [elements_cons] at hsettled
      rw [pieces] at hpath
      obtain ⟨walked, hwalked, hpieces, hnewline⟩ := pieces_walkNode_of_pathless node
        (fun e he => hsettled e (List.mem_append_left _ he))
        (fun p hp => hpath p (List.mem_append_left _ hp))
      obtain ⟨hrest, -⟩ := pieces_walkForest_of_pathless rest
        (fun e he => hsettled e (List.mem_append_right _ he))
        (fun p hp => hpath p (List.mem_append_right _ hp))
      rw [walkForest, Walked.kept_append, hwalked, List.singleton_append, pieces, pieces, hpieces,
        hrest]
      exact ⟨rfl, hnewline _ _⟩

end

/-! ## Titles -/

/-- A title is stripped with a repository where it is stripped without one, and what follows it is
walked alike. -/
theorem afterTitle?_walkForest {nodes rest : List Node}
    (hsettled : ∀ e ∈ elements nodes, s.unplaced.Settled e)
    (h : Page.afterTitle? nodes = some rest) :
    Page.afterTitle? (s.walkForest nodes).kept = some (s.walkForest rest).kept := by
  induction nodes with
  | nil => cases h
  | cons node more ih =>
      cases node with
      | text content =>
          rw [Page.afterTitle?] at h
          rw [walkForest, walkNode, Walked.kept_append, Walked.kept_keep, List.singleton_append,
            Page.afterTitle?]
          split at h
          next hblank =>
            rw [if_pos hblank]
            exact ih (fun e he => hsettled e (by simp [he])) h
          · cases h
      | element tag attributes children =>
          rw [Page.afterTitle?] at h
          split at h
          next htitle =>
            cases h
            have hself := hsettled ⟨tag, attributes⟩ (by simp)
            have hremoved : s.policy.removesWithContent tag = false := hself.notRemoved
            have hallowed : s.policy.allowsElement tag = true := hself.allowed
            have hsource : Rule.requiresSource tag = false := by
              rcases htitle with rfl | rfl <;> rfl
            rw [walkForest, Walked.kept_append, walkNode_of_allowed hremoved hallowed
              (by simp [hsource])]
            exact if_pos htitle
          · cases h

theorem write_walkForest_of_pathless {nodes : List Node}
    (hsettled : ∀ e ∈ elements nodes, s.unplaced.Settled e)
    (hpath : ∀ p ∈ pieces nodes, ¬s.policy.HasPath p) :
    write (s.walkForest nodes).kept = write nodes := by
  rw [← String.toList_inj, toList_write, toList_write,
    (pieces_walkForest_of_pathless nodes hsettled hpath).1]

/-- **A repository changes a page exactly if the page shows a path without it.** -/
theorem shown_walkForest_eq_iff (hknown : s.coordinate.isSome = true)
    (hmade : ∀ r ∈ s.coordinate, r.Made)
    (hnodup : ∀ tag, ((s.policy.forcedAttributes tag).map Prod.fst).Nodup) (nodes : List Node)
    (hplain : ∀ e ∈ elements (s.walkForest nodes).kept, e.Plain)
    (hplain' : ∀ e ∈ elements (s.unplaced.walkForest nodes).kept, e.Plain) (presents : Bool) :
    Page.shown presents (write (s.walkForest nodes).kept) =
        Page.shown presents (write (s.unplaced.walkForest nodes).kept) ↔
      ¬s.policy.ShowsPath (Page.shown presents (write (s.unplaced.walkForest nodes).kept)) := by
  constructor
  · intro hsame hpath
    rw [← hsame, Policy.showsPath_iff (Page.plain_of_mem_shownPieces hplain)
      (Page.toList_shown hplain)] at hpath
    obtain ⟨e, he, hpath⟩ := Page.exists_hasPath_of_shown hpath
    exact (keeps_of_mem_walkForest s nodes e he).not_hasPath hknown hmade hpath
  · intro hpath
    rw [Policy.showsPath_iff (Page.plain_of_mem_shownPieces hplain')
      (Page.toList_shown hplain')] at hpath
    have hsettled : ∀ e ∈ elements (s.unplaced.walkForest nodes).kept, s.unplaced.Settled e :=
      fun e he => (keeps_of_mem_walkForest _ nodes e he).settled (by simp) (hnodup e.tag)
    rw [← walkForest_again hmade hnodup] at hplain ⊢
    generalize (s.unplaced.walkForest nodes).kept = kept at hplain hplain' hpath hsettled ⊢
    cases presents with
    | false =>
        have hfree : ∀ p ∈ pieces kept, ¬s.policy.HasPath p := fun p hp h => hpath ⟨p, hp, h⟩
        rw [write_walkForest_of_pathless hsettled hfree]
    | true =>
        have hfree : ∀ p ∈ pieces (Page.withoutTitle kept), ¬s.policy.HasPath p := fun p hp h =>
          hpath ⟨_, List.mem_map_of_mem hp, (Page.hasPath_mirrorPiece p).2 h⟩
        cases hafter : Page.afterTitle? kept with
        | none =>
            rw [Page.withoutTitle, hafter] at hfree
            rw [write_walkForest_of_pathless hsettled hfree]
        | some rest =>
            rw [Page.withoutTitle, hafter] at hfree
            have hrest := pieces_walkForest_of_pathless rest
              (fun e he => hsettled e (Page.elements_afterTitle? hafter e he)) hfree
            rw [← String.toList_inj, Page.toList_shown hplain, Page.toList_shown hplain',
              Page.shownPieces, Page.shownPieces, Page.withoutTitle, Page.withoutTitle,
              afterTitle?_walkForest hsettled hafter, hafter, Option.getD_some, Option.getD_some,
              hrest.1, if_pos rfl, if_pos rfl]

end Sanitizer

end SafeReadme
