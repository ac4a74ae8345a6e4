import SafeReadme.Proofs.Html.Tokens
import SafeReadme.Proofs.Html.Tree.Within
import SafeReadme.Proofs.Policy.LoweredKeys

/-!
# How attribute names are spelled in a tree

Tags are read with the names of their attributes in lower case. HTML elements keep them so, but SVG
and MathML write some names with capitals, whatever case the document has them in. The names of all
attributes in a tree are in lower case or among these.
-/

namespace SafeReadme.Html

def capitalNames : List String :=
  "definitionURL" :: svgAttributes

theorem not_isLowered_of_mem_capitalNames {name : String} (h : name ∈ capitalNames) :
    ¬IsLowered name := by
  have hcapital : ∀ name ∈ capitalNames, name.toList.any Char.isUpper = true := by decide +kernel
  intro hlowered
  obtain ⟨c, hc, hupper⟩ := List.any_eq_true.1 (hcapital name h)
  rw [hlowered c hc] at hupper
  cases hupper

def AllLowered (attributes : List Attribute) : Prop :=
  ∀ a ∈ attributes, IsLowered a.name

/-! ## Tags -/

theorem isLowered_push {name : String} (h : IsLowered name) (c : Char) :
    IsLowered (name.push (visible c.toLower)) := by
  intro d hd
  rw [String.toList_push, List.mem_append, List.mem_singleton] at hd
  rcases hd with hd | rfl
  · exact h d hd
  · unfold visible
    split
    · decide
    · exact Text.isUpper_toLower c

structure TagDraft.Lowers (d : TagDraft) : Prop where
  attributes : AllLowered d.attributes
  attrName : IsLowered d.attrName

def TagStep.Lowers : TagStep → Prop
  | go draft _ _ => draft.Lowers
  | finish tag => AllLowered tag.attributes

theorem TagStep.Lowers.ite {p : Prop} [Decidable p] {step step' : TagStep} (h : step.Lowers)
    (h' : step'.Lowers) : (if p then step else step').Lowers := by
  split
  · exact h
  · exact h'

namespace TagDraft

variable {d : TagDraft}

theorem lowers_empty : empty.Lowers where
  attributes := by simp [empty, AllLowered]
  attrName := by simp [empty, IsLowered]

theorem Lowers.closeAttr (h : d.Lowers) : d.closeAttr.Lowers := by
  have hempty : IsLowered "" := by simp [IsLowered]
  unfold TagDraft.closeAttr
  split
  · exact ⟨h.attributes, hempty⟩
  · exact ⟨List.forall_mem_cons.2 ⟨h.attrName, h.attributes⟩, hempty⟩

theorem Lowers.pushAttr (h : d.Lowers) (c : Char) : (d.pushAttr c).Lowers :=
  ⟨h.attributes, isLowered_push h.attrName c⟩

theorem Lowers.finish (h : d.Lowers) (selfClosing : Bool) :
    AllLowered (d.finish selfClosing).attributes :=
  fun a ha => h.closeAttr.attributes a (List.mem_reverse.1 ha)

theorem Lowers.between (h : d.Lowers) (c : Char) : (d.between c).Lowers :=
  .ite h <| .ite h <| .ite (h.finish false) (h.closeAttr.pushAttr c)

theorem Lowers.value (h : d.Lowers) (part : TagPart) (c : Char) (cs : List Char) :
    (d.value part c cs).Lowers := by
  have hvalue : ∀ value, TagDraft.Lowers { d with attrValue := value } :=
    fun _ => ⟨h.attributes, h.attrName⟩
  unfold TagDraft.value
  split
  · split <;> exact hvalue _
  · exact hvalue _

theorem Lowers.step (h : d.Lowers) (part : TagPart) (c : Char) (cs : List Char) :
    (d.step part c cs).Lowers := by
  have hname : (d.pushName c).Lowers := ⟨h.attributes, h.attrName⟩
  cases part with
  | name => exact .ite h <| .ite h <| .ite (h.finish false) hname
  | between => exact h.between c
  | attrName =>
      exact .ite h <| .ite h <| .ite (h.finish false) <|
        .ite h (h.pushAttr c)
  | afterName => exact .ite h <| .ite h (h.between c)
  | beforeValue =>
      exact .ite h <| .ite h <| .ite (h.finish false) (h.value _ c cs)
  | quoted quote => exact .ite h (h.value _ c cs)
  | unquoted => exact .ite h <| .ite (h.finish false) (h.value _ c cs)
  | slash => exact .ite (h.finish true) (h.between c)

end TagDraft

theorem allLowered_of_readTag {d : TagDraft} (h : d.Lowers) {part : TagPart} {skip : Nat}
    {cs : List Char} {tag : Tag} {rest : List Char}
    (hread : readTag d part skip cs = some (tag, rest)) : AllLowered tag.attributes := by
  induction cs generalizing d part skip with
  | nil =>
      rw [readTag] at hread
      cases hread
  | cons c cs ih =>
      cases skip with
      | succ skip =>
          rw [readTag] at hread
          exact ih h hread
      | zero =>
          have hstep := h.step part c cs
          rw [readTag] at hread
          split at hread
          next draft part skip hgo =>
            rw [hgo] at hstep
            exact ih hstep hread
          next tag hfinish =>
            rw [hfinish] at hstep
            cases hread
            exact hstep

/-! ## Tokens -/

theorem admits_readDeclaration (A : Tag → Prop) (foreign : Bool) (cs : List Char) :
    (readDeclaration foreign cs).token.Admits A := by
  unfold readDeclaration
  split
  · trivial
  · split
    · trivial
    · split <;> trivial

theorem admits_of_readEndTag? {A : Tag → Prop} {cs : List Char} {lexed : Lexed}
    (h : readEndTag? cs = some lexed) : lexed.token.Admits A := by
  obtain ⟨read, -, rfl⟩ := Option.map_eq_some_iff.1 h
  trivial

theorem admits_of_readMarkup? {foreign : Bool} {cs : List Char} {lexed : Lexed}
    (h : readMarkup? foreign cs = some lexed) :
    lexed.token.Admits fun tag => AllLowered tag.attributes := by
  unfold readMarkup? at h
  -- Behind the bracket stand a declaration, an end tag or a start tag, or no tag is read.
  split at h
  case h_2 =>
    cases h
    exact admits_readDeclaration _ _ _
  case h_6 =>
    split at h
    · exact admits_of_readEndTag? h
    · cases h
      trivial
  case h_7 =>
    split at h
    · obtain ⟨⟨tag, rest⟩, hread, rfl⟩ := Option.map_eq_some_iff.1 h
      exact allLowered_of_readTag TagDraft.lowers_empty hread
    · cases h
      trivial
  all_goals
    cases h
    trivial

theorem admits_of_next? {mode : TextMode} {foreign : Bool} {cs : List Char} {lexed : Lexed}
    (h : next? mode foreign cs = some lexed) :
    lexed.token.Admits fun tag => AllLowered tag.attributes := by
  cases cs with
  | nil => cases h
  | cons c cs =>
      unfold next? at h
      cases mode with
      | data =>
          simp only at h
          split at h
          · exact admits_of_readMarkup? h
          · split at h
            all_goals
              cases h
              trivial
      | escapable tag =>
          simp only at h
          split at h
          · exact admits_of_readEndTag? h
          · cases h
            trivial
      | raw tag =>
          simp only at h
          split at h
          · exact admits_of_readEndTag? h
          · cases h
            trivial
      | script =>
          simp only at h
          split at h
          · exact admits_of_readEndTag? h
          · cases h
            trivial
      | plain =>
          cases h
          trivial

theorem feeds_lowered (I : Builder → Prop) :
    Builder.Feeds I (fun tag => AllLowered tag.attributes) fun _ => True where
  token := fun _ _ => admits_of_next?
  rest := fun _ _ _ => trivial
  mark := fun _ => trivial

/-! ## Trees -/

/-- Attributes with names in lower case, or as SVG and MathML write them. -/
def AllSpelled (attributes : List Attribute) : Prop :=
  ∀ a ∈ attributes, IsLowered a.name ∨ a.name ∈ capitalNames

/-- A vocabulary changes the spelling of a name to one with capitals, or not at all, but for a name
space. -/
theorem attributeSpelling_lowered {name : String} (h : IsLowered name) (vocabulary : Vocabulary) :
    IsLowered (attributeSpelling vocabulary name) ∨
      attributeSpelling vocabulary name ∈ capitalNames := by
  have hspace : IsLowered ":xmlns" := by simp [IsLowered]
  cases vocabulary with
  | html => exact .inl h
  | svg =>
      simp only [attributeSpelling]
      split
      · exact .inl hspace
      -- The names of the table all have a capital, so a name that is found is changed to one.
      · cases hfind : svgAttributes.find? (fun s => s.toLower == name) with
        | none => exact .inl h
        | some spelled => exact .inr (List.mem_cons_of_mem _ (List.mem_of_find?_eq_some hfind))
  | math =>
      simp only [attributeSpelling]
      split
      · exact .inl hspace
      · split
        · exact .inr List.mem_cons_self
        · exact .inl h

theorem allSpelled_spellAttributes {attributes : List Attribute} (h : AllLowered attributes)
    (vocabulary : Vocabulary) : AllSpelled (spellAttributes vocabulary attributes) := by
  intro a ha
  obtain ⟨given, hgiven, rfl⟩ := List.mem_map.1 ha
  exact attributeSpelling_lowered (h given hgiven) vocabulary

theorem closed_allSpelled : Closed (fun _ attributes => AllSpelled attributes) (fun _ => True)
    fun tag => AllLowered tag.attributes where
  image := fun h _ => h
  lineBreak := by simp [AllLowered]
  html := fun h a ha => .inl (h a ha)
  paragraph := by simp [AllSpelled]
  rowGroup := by simp [AllSpelled]
  row := by simp [AllSpelled]
  columnGroup := fun _ _ => by simp [AllSpelled]
  embedded := fun h _ => allSpelled_spellAttributes h _
  nested := fun h _ _ => allSpelled_spellAttributes h _
  data := trivial
  textMode := fun _ _ => trivial

/-- **Attribute names in a document are in lower case, or spelled as SVG and MathML spell them.** -/
theorem allSpelled_of_read? {html : String} {nodes : List Node} (h : read? html = some nodes) :
    ∀ e ∈ elements nodes, AllSpelled e.attributes := by
  have hwithin : (Builder.construct html.toList).Within (fun _ attributes => AllSpelled attributes)
      (fun _ => True) :=
    (Builder.keeps_within closed_allSpelled).run closed_allSpelled.toAdmissible (feeds_lowered _) _
      (Builder.within_start trivial) trivial
  intro e he
  obtain ⟨vocabulary, hspelled⟩ := within_nodes? hwithin.arena h e he
  exact hspelled

end SafeReadme.Html
