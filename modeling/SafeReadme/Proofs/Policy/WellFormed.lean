import SafeReadme.Proofs.Policy.Spelling
import SafeReadme.Proofs.Text.Letters
import SafeReadme.Proofs.Url.Reading

/-!
# Well-formed policies

The changes to a draft can come in any order and with names in any spelling, and a draft can be
finished and taken up again at any time. The policy that comes out is well formed all the same, and
finishing a draft of it at once gives it back.
-/

namespace SafeReadme

/-! ## Names in lower case -/

/-- A name without upper-case letters. -/
def IsLowered (name : String) : Prop :=
  ∀ c ∈ name.toList, c.isUpper = false

theorem isLowered_toLower (name : String) : IsLowered name.toLower := by
  intro c hc
  rw [← String.ofList_toList (s := name), Url.toLower_ofList, String.toList_ofList] at hc
  obtain ⟨given, -, rfl⟩ := List.mem_map.1 hc
  exact Text.isUpper_toLower given

/-! ## Well-formed policies -/

/-- What holds of a policy however it was made. -/
structure Policy.WellFormed (p : Policy) : Prop where
  exclusive : ∀ tag, p.allowsElement tag = true → p.removesWithContent tag = false
  /-- Tags and attribute names are in lower case, and so are schemes. -/
  names : p.Spells IsLowered
  schemes : ∀ c scheme, p.allowsScheme c scheme = true → IsLowered scheme
  forcedOnce : ∀ tag, ((p.forcedAttributes tag).map Prod.fst).Nodup
  rebuilt : p.toDraft.finish = p

/-! ## Schemes -/

namespace Draft

theorem isLowered_of_contains_lowered {names : List String} {k : String}
    (h : (NameSet.lowered names).contains k = true) : IsLowered k := by
  obtain ⟨name, -, rfl⟩ := mem_of_contains_lowered h
  exact isLowered_toLower name

def LowersSchemes (d : Draft) : Prop :=
  ∀ c scheme, d.policy.allowsScheme c scheme = true → IsLowered scheme

theorem lowersSchemes_empty : empty.LowersSchemes := by
  intro c scheme h
  cases c with
  | link => cases h
  | media => exact isLowered_of_contains_lowered h

theorem lowersSchemes_apply {d : Draft} (h : d.LowersSchemes) (step : Step) :
    (d.apply step).LowersSchemes := by
  intro c scheme hscheme
  cases step with
  | allowLinkSchemes schemes =>
      cases c with
      | link => exact isLowered_of_contains_lowered hscheme
      | media => exact h .media scheme hscheme
  | allowMediaSchemes schemes =>
      cases c with
      | link => exact h .link scheme hscheme
      | media => exact isLowered_of_contains_lowered hscheme
  | _ => exact h c scheme hscheme

theorem lowersSchemes_applyAll {d : Draft} (h : d.LowersSchemes) (steps : List Step) :
    (d.applyAll steps).LowersSchemes := by
  induction steps generalizing d with
  | nil => exact h
  | cons step rest ih => exact ih (lowersSchemes_apply h step)

end Draft

/-! ## Finishing twice -/

namespace NameMap

variable {α : Type}

theorem mapValues_eq_self {m : NameMap α} {f : String → α → α} (h : ∀ key value, f key value = value) :
    m.mapValues f = m := by
  cases m with
  | mk entries ordered =>
      simp only [mapValues, h]
      congr
      exact List.map_id' entries

theorem filterKeys_filterKeys (m : NameMap α) (p : String → Bool) :
    (m.filterKeys p).filterKeys p = m.filterKeys p := by
  simp [filterKeys]

end NameMap

namespace Draft

theorem elements_finish_toDraft (p : Policy) :
    p.toDraft.finish.elements =
      p.elements.filterKeys (fun tag => !p.removedWithContent.contains tag) := by
  simp only [finish, Policy.toDraft, NameMap.find?_empty]
  rw [NameMap.mapValues_eq_self fun _ _ => rfl]

/-- A finished draft hands nothing out and takes nothing away when it is finished again. -/
theorem finish_toDraft_finish (d : Draft) : d.finish.toDraft.finish = d.finish := by
  have helements : d.finish.toDraft.finish.elements = d.finish.elements := by
    rw [elements_finish_toDraft]
    exact NameMap.filterKeys_filterKeys _ fun tag => !d.policy.removedWithContent.contains tag
  calc d.finish.toDraft.finish
      = { d.finish with elements := d.finish.toDraft.finish.elements } := rfl
    _ = d.finish := by rw [helements]

end Draft

/-! ## Every policy -/

namespace Policy

theorem wellFormed_ofSteps (steps : List Step) : (ofSteps steps).WellFormed where
  exclusive := fun _ => not_removesWithContent_of_allowsElement
  names := spells_ofSteps (fun tag _ => isLowered_toLower tag)
    fun _ _ name _ => isLowered_toLower name
  schemes := Draft.lowersSchemes_applyAll Draft.lowersSchemes_empty steps
  forcedOnce := forcedAttributes_ofSteps_nodup steps
  rebuilt := Draft.finish_toDraft_finish _

/-- **Every policy that can be built is well formed**, whether the changes start from the empty draft
or from the Packagist policy. -/
theorem wellFormed_finish_applyAll (steps : List Step) :
    (Draft.empty.applyAll steps).finish.WellFormed ∧
      (packagist.toDraft.applyAll steps).finish.WellFormed := by
  have hpackagist : (packagist.toDraft.applyAll steps).finish =
      ofSteps (packagistSteps ++ .rebuild :: steps) :=
    finish_toDraft_ofSteps packagistSteps steps
  refine ⟨wellFormed_ofSteps steps, ?_⟩
  rw [hpackagist]
  exact wellFormed_ofSteps _

end Policy

end SafeReadme
