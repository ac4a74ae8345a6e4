import SafeReadme.Config.Renderer
import SafeReadme.Proofs.Html.Tokens
import SafeReadme.Proofs.Policy.Spelling
import SafeReadme.Proofs.Url.Reading

/-!
# Policies from configurations

A configuration changes the Packagist policy by steps like any other, so what holds of every policy
that can be built holds of its policy. In addition its names are judged, which makes every tag and
every attribute name of the policy plain: a letter in lower case, then letters, digits and hyphens.
-/

namespace SafeReadme

open Html Text

/-! ## Names in lower case -/

namespace Config

theorem isPlainChar_toLower {c : Char} (h : (c.isAlphanum || c == '-') = true) :
    isPlainChar c.toLower = true := by
  unfold Char.isAlphanum at h
  rw [Bool.or_eq_true, Bool.or_eq_true, beq_iff_eq] at h
  rcases h with (halpha | hdigit) | rfl
  · simp [isPlainChar, isLower_toLower halpha]
  · have hrange := isDigit_iff.1 hdigit
    rw [toLower_eq_self (by omega)]
    simp [isPlainChar, hdigit]
  · decide

theorem isPlainName_toLower {name : String} (h : isName name = true) :
    isPlainName name.toLower = true := by
  rw [isName, isWord] at h
  split at h
  · cases h
  next c cs hchars =>
    rw [Bool.and_eq_true, List.all_eq_true] at h
    have hlowered : name.toLower.toList = c.toLower :: cs.map Char.toLower := by
      rw [← String.ofList_toList (s := name), Url.toLower_ofList, String.toList_ofList, hchars]
      rfl
    have hfirst := isLower_toLower h.1
    refine isPlainName_iff.2 ⟨_, _, hlowered, hfirst, fun d hd => ?_⟩
    rcases List.mem_cons.1 hd with rfl | hd
    · simp [isPlainChar, hfirst]
    · obtain ⟨given, hgiven, rfl⟩ := List.mem_map.1 hd
      exact isPlainChar_toLower (by simpa using h.2 given hgiven)

theorem isName_of_nameFaults_eq_nil {field : String} {names : List String}
    (h : nameFaults field names = []) : ∀ name ∈ names, isName name = true := by
  rw [nameFaults, List.map_eq_nil_iff, List.filter_eq_nil_iff] at h
  simpa using h

end Config

namespace PolicyOverrides

/-! ## Accepted overrides -/

theorem toPolicy_eq_ok_iff {p : PolicyOverrides} {policy : Policy} :
    p.toPolicy = .ok policy ↔
      p.faults = [] ∧ p.disallowedForced? = none ∧ p.overridden = policy := by
  unfold toPolicy
  cases hfaults : p.faults with
  | cons fault rest => simp
  | nil =>
      cases hdisallowed : p.disallowedForced? with
      | some tag => simp
      | none => simp

/-- The policy is built by the steps of the Packagist policy and those of the overrides. -/
theorem overridden_eq_ofSteps (p : PolicyOverrides) :
    p.overridden = Policy.ofSteps (Policy.packagistSteps ++ .rebuild :: p.steps) :=
  Policy.finish_toDraft_ofSteps Policy.packagistSteps p.steps

theorem forcedAttributes_nodup {p : PolicyOverrides} {policy : Policy}
    (h : p.toPolicy = .ok policy) (tag : String) :
    ((policy.forcedAttributes tag).map Prod.fst).Nodup := by
  obtain ⟨-, -, rfl⟩ := toPolicy_eq_ok_iff.1 h
  rw [overridden_eq_ofSteps]
  exact Policy.forcedAttributes_ofSteps_nodup _ tag

def givenNames (p : PolicyOverrides) : List String :=
  (p.elements.map namesIn).getD [] ++ namesIn p.extraElements ++ p.globalAttributes.getD [] ++
    (p.forcedAttributes.map forcedNames).getD [] ++ p.removedWithContent.getD []

theorem isName_of_mem_givenNames {p : PolicyOverrides} (h : p.faults = []) :
    ∀ name ∈ p.givenNames, Config.isName name = true := by
  simp only [faults, List.append_eq_nil_iff] at h
  obtain ⟨⟨⟨⟨⟨⟨⟨helements, hextra⟩, hglobals⟩, hforced⟩, hremoved⟩, -⟩, -⟩, -⟩ := h
  intro name hname
  simp only [givenNames, List.mem_append] at hname
  rcases hname with (((hname | hname) | hname) | hname) | hname
  · exact Config.isName_of_nameFaults_eq_nil helements name hname
  · exact Config.isName_of_nameFaults_eq_nil hextra name hname
  · exact Config.isName_of_nameFaults_eq_nil hglobals name hname
  · exact Config.isName_of_nameFaults_eq_nil hforced name hname
  · exact Config.isName_of_nameFaults_eq_nil hremoved name hname

theorem mem_stepsFor {α : Type} {steps : α → List Step} {field : Option α} {step : Step}
    (h : step ∈ stepsFor steps field) : ∃ value, field = some value ∧ step ∈ steps value := by
  cases field with
  | none => cases h
  | some value => exact ⟨value, rfl, h⟩

theorem mem_stepsFor_singleton {α : Type} {f : α → Step} {field : Option α} {step : Step}
    (h : step ∈ stepsFor (fun value => [f value]) field) :
    ∃ value, field = some value ∧ step = f value := by
  obtain ⟨value, hfield, hstep⟩ := mem_stepsFor h
  exact ⟨value, hfield, List.mem_singleton.1 hstep⟩

theorem mem_namesIn_of_mem_allowSteps {elements : NameMap (List String)} {step : Step}
    (h : step ∈ allowSteps elements) : ∀ name ∈ step.names, name ∈ namesIn elements := by
  obtain ⟨⟨tag, attributes⟩, hentry, rfl⟩ := List.mem_map.1 h
  exact fun name hname => List.mem_flatMap.2 ⟨_, hentry, hname⟩

theorem mem_forcedNames_of_mem_forceSteps {forced : NameMap (NameMap String)} {step : Step}
    (h : step ∈ forceSteps forced) : ∀ name ∈ step.names, name ∈ forcedNames forced := by
  obtain ⟨⟨tag, attributes⟩, hentry, hstep⟩ := List.mem_flatMap.1 h
  obtain ⟨⟨key, value⟩, hkey, rfl⟩ := List.mem_map.1 hstep
  intro name hname
  refine List.mem_flatMap.2 ⟨_, hentry, ?_⟩
  simp only [Step.names, List.mem_cons, List.not_mem_nil, or_false] at hname
  rcases hname with rfl | rfl
  · simp
  · exact List.mem_cons_of_mem _ (List.mem_map.2 ⟨_, hkey, rfl⟩)

theorem mem_givenNames_of_mem_steps {p : PolicyOverrides} {step : Step} (h : step ∈ p.steps) :
    ∀ name ∈ step.names, name ∈ p.givenNames := by
  intro name hname
  simp only [steps, List.mem_append] at h
  simp only [givenNames, List.mem_append]
  rcases h with ((((((((h | h) | h) | h) | h) | h) | h) | h) | h) | h
  · obtain ⟨elements, hfield, hstep⟩ := mem_stepsFor h
    rcases List.mem_cons.1 hstep with rfl | hstep
    · cases hname
    · rw [hfield]
      exact .inl (.inl (.inl (.inl (mem_namesIn_of_mem_allowSteps hstep name hname))))
  · exact .inl (.inl (.inl (.inr (mem_namesIn_of_mem_allowSteps h name hname))))
  · obtain ⟨globals, hfield, hstep⟩ := mem_stepsFor h
    rcases List.mem_cons.1 hstep with rfl | hstep
    · cases hname
    · obtain ⟨given, hgiven, rfl⟩ := List.mem_map.1 hstep
      rw [Step.names, List.mem_singleton] at hname
      rw [hfield]
      exact .inl (.inl (.inr (hname ▸ hgiven)))
  · obtain ⟨forced, hfield, hstep⟩ := mem_stepsFor h
    rcases List.mem_cons.1 hstep with rfl | hstep
    · cases hname
    · rw [hfield]
      exact .inl (.inr (mem_forcedNames_of_mem_forceSteps hstep name hname))
  -- What is left changes schemes, flags and the size, and has no names but those of the last field.
  · obtain ⟨schemes, -, rfl⟩ := mem_stepsFor_singleton h
    cases hname
  · obtain ⟨schemes, -, rfl⟩ := mem_stepsFor_singleton h
    cases hname
  · obtain ⟨allow, -, rfl⟩ := mem_stepsFor_singleton h
    cases hname
  · obtain ⟨allow, -, rfl⟩ := mem_stepsFor_singleton h
    cases hname
  · obtain ⟨length, -, rfl⟩ := mem_stepsFor_singleton h
    cases hname
  · obtain ⟨tags, hfield, rfl⟩ := mem_stepsFor_singleton h
    rw [hfield]
    exact .inr hname

theorem isPlainName_packagistSteps : ∀ step ∈ Policy.packagistSteps, ∀ name ∈ step.names,
    isPlainName name.toLower = true := by
  decide +kernel

theorem isPlainName_neverProse : ∀ tag ∈ Draft.neverProse, isPlainName tag.toLower = true := by
  decide +kernel

/-- **All names in the policy of a configuration are plain.** -/
theorem spells_of_toPolicy {p : PolicyOverrides} {policy : Policy} (h : p.toPolicy = .ok policy) :
    policy.Spells (fun name => isPlainName name = true) := by
  obtain ⟨hfaults, -, rfl⟩ := toPolicy_eq_ok_iff.1 h
  rw [overridden_eq_ofSteps]
  refine Policy.spells_ofSteps isPlainName_neverProse fun step hstep name hname => ?_
  rcases List.mem_append.1 hstep with hstep | hstep
  · exact isPlainName_packagistSteps step hstep name hname
  · rcases List.mem_cons.1 hstep with rfl | hstep
    · cases hname
    · have hgiven := mem_givenNames_of_mem_steps hstep name hname
      have hjudged := isName_of_mem_givenNames hfaults name hgiven
      exact Config.isPlainName_toLower hjudged

end PolicyOverrides

end SafeReadme
