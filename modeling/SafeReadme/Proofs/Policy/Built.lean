import SafeReadme.Policy.Packagist
import SafeReadme.Proofs.Policy.Lookup

/-!
# Policies that can be built

Every policy is the end of a sequence of changes to a draft. Whatever the changes are and in
whatever order they come, an element that is removed with its content is not allowed, and no
element has one attribute forced on it twice.
-/

namespace SafeReadme

/-- The policy that a sequence of changes to the empty draft makes. -/
def Policy.ofSteps (steps : List Step) : Policy :=
  (Draft.empty.applyAll steps).finish

/-- A draft that starts from a policy goes on with the changes that made it. -/
theorem Policy.finish_toDraft_ofSteps (steps more : List Step) :
    ((Policy.ofSteps steps).toDraft.applyAll more).finish =
      Policy.ofSteps (steps ++ .rebuild :: more) := by
  simp [Policy.ofSteps, Draft.applyAll, List.foldl_append, Draft.apply]

namespace Draft

/-! ## Finishing -/

theorem removesWithContent_finish (d : Draft) (tag : String) :
    d.finish.removesWithContent tag = d.policy.removesWithContent tag := rfl

theorem allowsElement_finish (d : Draft) (tag : String) :
    d.finish.allowsElement tag =
      (!d.policy.removesWithContent tag && d.policy.allowsElement tag) := by
  simp only [finish, Policy.allowsElement, Policy.removesWithContent,
    NameMap.contains_filterKeys, NameMap.contains_mapValues]

theorem not_removesWithContent_of_allowsElement_finish {d : Draft} {tag : String}
    (h : d.finish.allowsElement tag = true) : d.finish.removesWithContent tag = false := by
  rw [allowsElement_finish, Bool.and_eq_true, Bool.not_eq_true'] at h
  rw [removesWithContent_finish]
  exact h.1

/-! ## Forced attributes -/

theorem nodup_setLast {attributes : List (String × String)} (name value : String)
    (h : (attributes.map Prod.fst).Nodup) :
    ((setLast name value attributes).map Prod.fst).Nodup := by
  have hsub : (attributes.filter (fun a => a.1 != name)).Sublist attributes :=
    List.filter_sublist
  have hnot : name ∉ (attributes.filter (fun a => a.1 != name)).map Prod.fst := by
    simp
  rw [setLast, List.map_append, List.nodup_append]
  refine ⟨h.sublist (hsub.map Prod.fst), by simp, ?_⟩
  intro a ha b hb hab
  rw [List.map_singleton, List.mem_singleton] at hb
  rw [hab, hb] at ha
  exact hnot ha

theorem forcedAttributes_apply_forceAttribute (d : Draft) (forcedTag name value tag : String) :
    (d.apply (.forceAttribute forcedTag name value)).policy.forcedAttributes tag =
      if tag = forcedTag.toLower then
        setLast name.toLower value (d.policy.forcedAttributes forcedTag.toLower)
      else d.policy.forcedAttributes tag := by
  simp only [apply, Policy.forcedAttributes, NameMap.find?_alter]
  split <;> rfl

/-- No element has an attribute forced on it twice. -/
def ForcesOnce (d : Draft) : Prop :=
  ∀ tag, ((d.policy.forcedAttributes tag).map Prod.fst).Nodup

theorem forcesOnce_apply {d : Draft} (h : d.ForcesOnce) (step : Step) :
    (d.apply step).ForcesOnce := by
  intro tag
  cases step with
  | clearForcedAttributes => simp [apply, Policy.forcedAttributes]
  | forceAttribute forcedTag name value =>
      rw [forcedAttributes_apply_forceAttribute]
      split
      · exact nodup_setLast name.toLower value (h forcedTag.toLower)
      · exact h tag
  | _ => exact h tag

theorem forcesOnce_applyAll {d : Draft} (h : d.ForcesOnce) (steps : List Step) :
    (d.applyAll steps).ForcesOnce := by
  induction steps generalizing d with
  | nil => exact h
  | cons step rest ih => exact ih (forcesOnce_apply h step)

theorem forcesOnce_empty : empty.ForcesOnce := by
  intro tag
  simp [empty, Policy.forcedAttributes]

end Draft

namespace Policy

theorem forcedAttributes_ofSteps_nodup (steps : List Step) (tag : String) :
    (((ofSteps steps).forcedAttributes tag).map Prod.fst).Nodup :=
  Draft.forcesOnce_applyAll Draft.forcesOnce_empty steps tag

theorem not_removesWithContent_of_allowsElement {steps : List Step} {tag : String}
    (h : (ofSteps steps).allowsElement tag = true) :
    (ofSteps steps).removesWithContent tag = false :=
  Draft.not_removesWithContent_of_allowsElement_finish h

end Policy

end SafeReadme
