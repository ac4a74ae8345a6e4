import SafeReadme.Proofs.Policy.Built
import SafeReadme.Proofs.Policy.Equality

/-!
# Grants and removals in any order

Some changes to a draft only add to it: an element, an attribute, or an element that goes with its
content. On the way their order shows, since a removal takes away what was allowed before it and not
what is allowed after it. The policy at the end is the same for every order: it allows what some
change allows and no change removes.
-/

namespace SafeReadme

namespace Step

/-- The changes that only add something. -/
def Accumulates : Step → Prop
  | allowElement _ _ | allowAttribute _ _ | allowGlobalAttribute _ | removeWithContent _ => True
  | _ => False

def allows (tag : String) : Step → Bool
  | allowElement given _ => tag == given.toLower
  | _ => false

def removes (tag : String) : Step → Bool
  | removeWithContent given => tag == given.toLower
  | _ => false

def grants (tag name : String) : Step → Bool
  | allowElement given attributes =>
      tag == given.toLower && (attributes.map String.toLower).contains name
  | allowAttribute given tags => (tags.map String.toLower).contains tag && name == given.toLower
  | _ => false

def grantsToAll (name : String) : Step → Bool
  | allowGlobalAttribute given => name == given.toLower
  | _ => false

end Step

namespace Draft

/-! ## Grants to one tag -/

theorem contains_grant (table : NameMap NameSet) (tag : String) (names : List String) (k : String) :
    (grant table tag names).contains k = (k == tag.toLower || table.contains k) :=
  NameMap.contains_alter _ _ _ _

theorem lists_grant (table : NameMap NameSet) (tag : String) (names : List String) (k n : String) :
    (grant table tag names).lists k n =
      (k == tag.toLower && (names.map String.toLower).contains n || table.lists k n) := by
  unfold NameMap.lists grant
  rw [NameMap.find?_alter]
  by_cases hk : k = tag.toLower
  · subst hk
    simp [NameSet.contains_addAll]
  · simp [hk]

theorem lists_grantAll (name : String) (tags : List String) (table : NameMap NameSet)
    (k n : String) :
    (tags.foldl (fun table tag => grant table tag [name]) table).lists k n =
      ((tags.map String.toLower).contains k && n == name.toLower || table.lists k n) := by
  induction tags generalizing table with
  | nil => simp
  | cons tag rest ih =>
      have hname : ([name].map String.toLower).contains n = (n == name.toLower) :=
        Bool.or_false _
      rw [List.foldl_cons, ih, lists_grant, hname, List.map_cons, List.contains_cons]
      cases k == tag.toLower <;> cases n == name.toLower <;> simp

/-- Whether a draft holds the grant of an attribute to a tag, be it allowed or not. -/
def grants (d : Draft) (tag name : String) : Bool :=
  d.policy.elements.lists tag name || d.granted.lists tag name

/-- Waiting grants count for the elements that are allowed in the end. -/
theorem lists_finish (d : Draft) (tag name : String) :
    d.finish.elements.lists tag name = (d.finish.allowsElement tag && d.grants tag name) := by
  have helements : d.finish.elements.lists tag name =
      (!d.policy.removesWithContent tag &&
        (d.policy.allowsElement tag && d.grants tag name)) := by
    rw [finish, NameMap.lists_filterKeys]
    congr 1
    unfold NameMap.lists Policy.allowsElement grants NameMap.lists
    rw [NameMap.find?_mapValues]
    cases hfind : d.policy.elements.find? tag with
    | none => simp [NameMap.contains, hfind]
    | some attributes =>
        have hallowed : d.policy.elements.contains tag = true := by
          simp [NameMap.contains, hfind]
        rw [hallowed]
        cases d.granted.find? tag with
        | none => simp
        | some more => simp [NameSet.contains_union]
  rw [helements, allowsElement_finish, Bool.and_assoc]

/-! ## What changes that only add make of a draft -/

/-- A draft is what `steps` make of `d`, which only add. What is allowed on the way is certain only
for tags that no step removes; for the others it does not matter in the end. -/
structure Gathers (d : Draft) (steps : List Step) (d' : Draft) : Prop where
  removed : ∀ tag, d'.policy.removesWithContent tag =
    (steps.any (·.removes tag) || d.policy.removesWithContent tag)
  allowed : ∀ tag, steps.any (·.removes tag) = false → d'.policy.allowsElement tag =
    (steps.any (·.allows tag) || d.policy.allowsElement tag)
  granted : ∀ tag name, steps.any (·.removes tag) = false → d'.grants tag name =
    (steps.any (·.grants tag name) || d.grants tag name)
  globals : ∀ name, d'.policy.globalAttributes.contains name =
    (steps.any (·.grantsToAll name) || d.policy.globalAttributes.contains name)
  rest : d'.policy = { d.policy with
    elements := d'.policy.elements
    globalAttributes := d'.policy.globalAttributes
    removedWithContent := d'.policy.removedWithContent }

variable {d d' d'' : Draft} {steps steps' : List Step}

theorem gathers_nil (d : Draft) : d.Gathers [] d where
  removed := fun _ => rfl
  allowed := fun _ _ => rfl
  granted := fun _ _ _ => rfl
  globals := fun _ => rfl
  rest := rfl

theorem Gathers.append (h : d.Gathers steps d') (h' : d'.Gathers steps' d'') :
    d.Gathers (steps ++ steps') d'' where
  removed := by
    intro tag
    rw [h'.removed, h.removed, List.any_append, Bool.or_left_comm, Bool.or_assoc]
  allowed := by
    intro tag hstays
    rw [List.any_append, Bool.or_eq_false_iff] at hstays
    rw [h'.allowed tag hstays.2, h.allowed tag hstays.1, List.any_append, Bool.or_left_comm,
      Bool.or_assoc]
  granted := by
    intro tag name hstays
    rw [List.any_append, Bool.or_eq_false_iff] at hstays
    rw [h'.granted tag name hstays.2, h.granted tag name hstays.1, List.any_append,
      Bool.or_left_comm, Bool.or_assoc]
  globals := by
    intro name
    rw [h'.globals, h.globals, List.any_append, Bool.or_left_comm, Bool.or_assoc]
  rest := by
    rw [h'.rest, h.rest]

theorem gathers_apply (d : Draft) {step : Step} (hstep : step.Accumulates) :
    d.Gathers [step] (d.apply step) := by
  cases step with
  | allowElement tag attributes =>
      exact {
        removed := fun _ => rfl
        allowed := fun k _ => by
          simp [apply, Policy.allowsElement, contains_grant, Step.allows]
        granted := fun k n _ => by
          simp [apply, grants, lists_grant, Step.grants, Bool.or_assoc]
        globals := fun _ => rfl
        rest := rfl }
  | allowAttribute name tags =>
      exact {
        removed := fun _ => rfl
        allowed := fun _ _ => rfl
        granted := fun k n _ => by
          simp [apply, grants, lists_grantAll, Step.grants, Bool.or_left_comm]
        globals := fun _ => rfl
        rest := rfl }
  | allowGlobalAttribute name =>
      exact {
        removed := fun _ => rfl
        allowed := fun _ _ => rfl
        granted := fun _ _ _ => rfl
        globals := fun n => by simp [apply, NameSet.contains_add, Step.grantsToAll]
        rest := rfl }
  | removeWithContent tag =>
      -- The tags that are not removed are those that the erasure does not reach.
      have hkept : ∀ k, [Step.removeWithContent tag].any (·.removes k) = false →
          (k != tag.toLower) = true := by
        intro k hstays
        simpa [Step.removes] using hstays
      exact {
        removed := fun k => by
          simp [apply, Policy.removesWithContent, NameSet.contains_add, Step.removes]
        allowed := fun k hstays => by
          simp [apply, Policy.allowsElement, NameMap.erase, NameMap.contains_filterKeys,
            hkept k hstays, Step.allows]
        granted := fun k n hstays => by
          simp [apply, grants, NameMap.erase, NameMap.lists_filterKeys, hkept k hstays,
            Step.grants]
        globals := fun _ => rfl
        rest := rfl }
  | _ => exact hstep.elim

theorem gathers_applyAll (hsteps : ∀ step ∈ steps, step.Accumulates) (d : Draft) :
    d.Gathers steps (d.applyAll steps) := by
  induction steps generalizing d with
  | nil => exact gathers_nil d
  | cons step rest ih =>
      have hfirst := gathers_apply d (hsteps step List.mem_cons_self)
      exact hfirst.append (ih (fun s hs => hsteps s (List.mem_cons_of_mem _ hs)) _)

/-! ## The policy in the end -/

theorem Gathers.allowsElement_finish (h : d.Gathers steps d') (tag : String) :
    d'.finish.allowsElement tag =
      (!d'.policy.removesWithContent tag &&
        (steps.any (·.allows tag) || d.policy.allowsElement tag)) := by
  rw [Draft.allowsElement_finish, h.removed]
  cases hremoved : steps.any (·.removes tag) with
  | true => rfl
  | false => rw [h.allowed tag hremoved]

theorem Gathers.lists_finish (h : d.Gathers steps d') (tag name : String) :
    d'.finish.elements.lists tag name =
      (d'.finish.allowsElement tag && (steps.any (·.grants tag name) || d.grants tag name)) := by
  rw [Draft.lists_finish]
  cases hremoved : steps.any (·.removes tag) with
  | true =>
      -- What a removed tag holds depends on the order, but it is not allowed in the end.
      have hgone : d'.finish.allowsElement tag = false := by
        rw [Draft.allowsElement_finish, h.removed, hremoved]
        rfl
      rw [hgone]
      rfl
  | false => rw [h.granted tag name hremoved]

/-- What changes add depends on no more than which changes there are. -/
theorem Gathers.finish_eq {d₁ d₂ : Draft} (h : d.Gathers steps d₁) (h' : d.Gathers steps' d₂)
    (hany : ∀ p : Step → Bool, steps.any p = steps'.any p) : d₁.finish = d₂.finish := by
  have hremoved : ∀ tag, d₁.policy.removesWithContent tag = d₂.policy.removesWithContent tag := by
    intro tag
    rw [h.removed, h'.removed, hany]
  have hallowed : ∀ tag, d₁.finish.allowsElement tag = d₂.finish.allowsElement tag := by
    intro tag
    rw [h.allowsElement_finish, h'.allowsElement_finish, hremoved, hany]
  have helements : d₁.finish.elements = d₂.finish.elements := by
    refine NameMap.eq_of_lists hallowed fun tag _ name => ?_
    rw [h.lists_finish, h'.lists_finish, hallowed, hany]
  have hglobals : d₁.policy.globalAttributes = d₂.policy.globalAttributes := by
    apply NameMap.eq_of_contains
    intro name
    rw [h.globals, h'.globals, hany]
  have hsets : d₁.policy.removedWithContent = d₂.policy.removedWithContent :=
    NameMap.eq_of_contains hremoved
  calc d₁.finish
      = { d₁.policy with elements := d₁.finish.elements } := rfl
    _ = { d₂.policy with elements := d₂.finish.elements } := by
        rw [h.rest, h'.rest, helements, hglobals, hsets]
    _ = d₂.finish := rfl

/-- **Grants and removals commute.** Changes that only add make the same policy in every order,
whatever draft they start from. An element that a change removes is not allowed, any other that the
draft or a change allows is, and an attribute that the draft or a change grants is allowed exactly
on the elements that are. -/
theorem finish_applyAll_perm (d : Draft) (hsteps : ∀ step ∈ steps, step.Accumulates)
    (hperm : steps.Perm steps') :
    let p := (d.applyAll steps).finish
    (d.applyAll steps').finish = p ∧
      (∀ tag, p.removesWithContent tag =
        (steps.any (·.removes tag) || d.policy.removesWithContent tag)) ∧
      (∀ tag, p.allowsElement tag =
        (!p.removesWithContent tag &&
          (steps.any (·.allows tag) || d.policy.allowsElement tag))) ∧
      ∀ tag name, p.allowsAttribute tag name =
        (p.allowsElement tag &&
          ((steps.any (·.grants tag name) || d.grants tag name) ||
            (steps.any (·.grantsToAll name) || d.policy.globalAttributes.contains name))) := by
  intro p
  have hgathers := gathers_applyAll hsteps d
  have hgathers' := gathers_applyAll (fun step hstep => hsteps step (hperm.mem_iff.2 hstep)) d
  refine ⟨hgathers'.finish_eq hgathers fun _ => hperm.symm.any_eq, hgathers.removed,
    hgathers.allowsElement_finish, fun tag name => ?_⟩
  have hglobals : p.globalAttributes.contains name =
      (steps.any (·.grantsToAll name) || d.policy.globalAttributes.contains name) :=
    hgathers.globals name
  rw [Policy.allowsAttribute_eq, hgathers.lists_finish, hglobals]
  cases p.allowsElement tag <;> rfl

/-- A grant before its element, and an element that is removed between two steps that allow it. -/
theorem finish_applyAll_perm_mixed :
    let steps : List Step := [.allowAttribute "Align" ["P", "div"], .allowElement "style" ["media"],
      .removeWithContent "STYLE", .allowElement "p" [], .allowElement "Style" []]
    let p := (empty.applyAll steps).finish
    (∀ step ∈ steps, step.Accumulates) ∧ steps.Perm steps.reverse ∧
      (empty.applyAll steps.reverse).finish = p ∧
      p.allowsAttribute "p" "align" = true ∧ p.allowsAttribute "div" "align" = false ∧
      p.allowsElement "style" = false := by
  intro steps p
  have hsteps : ∀ step ∈ steps, step.Accumulates := by simp [steps, Step.Accumulates]
  have hperm : steps.Perm steps.reverse := (List.reverse_perm steps).symm
  obtain ⟨hequal, hremoved, hallowed, hgranted⟩ := finish_applyAll_perm empty hsteps hperm
  refine ⟨hsteps, hperm, hequal, ?_, ?_, ?_⟩
  · rw [hgranted, hallowed, hremoved]
    decide +kernel
  · rw [hgranted, hallowed, hremoved]
    decide +kernel
  · rw [hallowed, hremoved]
    decide +kernel

end Draft

end SafeReadme
