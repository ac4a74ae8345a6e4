import SafeReadme.Proofs.Command.Override
import SafeReadme.Proofs.Page.Paths
import SafeReadme.Proofs.Sanitize.ReadBack

/-!
# A host without a repository

A host alone names no repository, and nothing takes the place of the configured one: the document
is rendered as if no host had been given. Whether that can be told from a rendering without a
repository depends on the paths that the page would show.
-/

namespace SafeReadme

open Html

/-! ## With a repository and without one -/

/-- Two renderings that are refused for the same reason, or whose pages are the same exactly if the
second shows no path. -/
def Alike {ε : Type} (policy : Policy) : Except ε Rendered → Except ε Rendered → Prop
  | .error e, .error e' => e = e'
  | .ok placed, .ok bare => placed.html = bare.html ↔ ¬policy.ShowsPath bare.html
  | _, _ => False

namespace Alike

variable {ε ε' α : Type} {policy : Policy}

theorem mapError {x y : Except ε Rendered} (h : Alike policy x y) (f : ε → ε') :
    Alike policy (x.mapError f) (y.mapError f) := by
  cases x <;> cases y <;> first | exact congrArg f h | exact h

theorem bind {x : Except ε α} {f g : α → Except ε Rendered}
    (h : ∀ a, x = .ok a → Alike policy (f a) (g a)) : Alike policy (x.bind f) (x.bind g) := by
  cases x with
  | error e => exact rfl
  | ok a => exact h a rfl

end Alike

namespace Renderer

def placed (r : Renderer) (k : Coordinate) : Renderer :=
  { r with coordinate := some k }

variable {r : Renderer} {k : Coordinate} {overrides : PolicyOverrides}

theorem html_finish (sanitized : Rendered) :
    (r.finish sanitized).html = Page.shown r.presents sanitized.html := by
  unfold finish Page.shown
  split <;> rfl

/-- A repository has no part in whether a document is refused, and it changes the page exactly if
the page shows a path without it. -/
theorem alike_renderHtml (hpolicy : overrides.toPolicy = .ok r.policy) (hbare : r.coordinate = none)
    (hmade : k.Made) (html : String) :
    Alike r.policy ((r.placed k).renderHtml html) (r.renderHtml html) := by
  have hnodup := fun tag => PolicyOverrides.forcedAttributes_nodup hpolicy tag
  have hsanitizer : r.sanitizer = (r.placed k).sanitizer.unplaced := by
    rw [sanitizer, hbare]
    rfl
  rw [renderHtml, renderHtml, Sanitizer.sanitize, Sanitizer.sanitize]
  show Alike r.policy (((readWithin r.policy.maxInputLength html).map _).map _)
    (((readWithin r.policy.maxInputLength html).map _).map _)
  cases readWithin r.policy.maxInputLength html with
  | error refusal => exact rfl
  | ok nodes =>
      show ((r.placed k).finish _).html = (r.finish _).html ↔ ¬r.policy.ShowsPath (r.finish _).html
      rw [html_finish, html_finish, hsanitizer]
      exact Sanitizer.shown_walkForest_eq_iff (s := (r.placed k).sanitizer) rfl
        (fun k' hk' => Option.some.inj hk' ▸ hmade) hnodup nodes
        (Sanitizer.plain_of_mem_walkForest hpolicy (some k) nodes)
        (Sanitizer.plain_of_mem_walkForest hpolicy none nodes) r.presents

theorem alike_renderKind (hpolicy : overrides.toPolicy = .ok r.policy) (hbare : r.coordinate = none)
    (hmade : k.Made) (kind : InputKind) (text : String) :
    Alike r.policy ((r.placed k).renderKind kind text) (r.renderKind kind text) := by
  cases kind with
  | html => exact alike_renderHtml hpolicy hbare hmade text
  | markdown => exact Alike.bind fun html _ => alike_renderHtml hpolicy hbare hmade html

end Renderer

/-! ## Runs -/

namespace Config

variable {config : Config} {r : Renderer}

theorem bare_of_toRenderer (h : config.withoutRepository.toRenderer = .ok r) :
    config.policy.toPolicy = .ok r.policy ∧ r.coordinate = none := by
  rw [toRenderer, renderer, withoutRepository] at h
  cases hpolicy : config.policy.toPolicy with
  | error fault =>
      rw [hpolicy] at h
      cases h
  | ok policy =>
      rw [hpolicy] at h
      cases h
      exact ⟨rfl, rfl⟩

theorem exists_made_of_accepted (hsome : config.repository ≠ none)
    (h : config.AcceptsRepository) :
    ∃ k, config.repository.mapM RepositoryFields.toCoordinate = .ok (some k) ∧ k.Made := by
  obtain ⟨fields, hfields⟩ := Option.ne_none_iff_exists'.1 hsome
  obtain ⟨k, hk⟩ := h fields hfields
  refine ⟨k, ?_, ?_⟩
  · rw [hfields, Option.mapM_some, hk]
    rfl
  · rw [RepositoryFields.toCoordinate] at hk
    cases hmake : Coordinate.make fields.host fields.ownerRepo fields.basePath with
    | error fault =>
        rw [hmake] at hk
        cases hk
    | ok coordinate =>
        rw [hmake] at hk
        cases hk
        exact ⟨_, _, _, hmake⟩

end Config

namespace Session

variable {s t : Session Rendered} {policy : Policy}

theorem stdout_of_ok {rendered : Rendered} (h : s.result = .ok rendered) :
    s.outcome.stdout = rendered.html ++ "\n" := by
  rw [outcome, h]

/-- A run that fails prints what another run does exactly if that fails, too. -/
theorem stdout_eq_iff_of_error {failure : Failure} (h : s.result = .error failure) :
    s.outcome.stdout = t.outcome.stdout ↔ ∀ rendered, t.result ≠ .ok rendered := by
  rw [(outcome_of_error h).2]
  cases hresult : t.result with
  | error failure' => simp [(outcome_of_error hresult).2]
  | ok rendered => simp [stdout_of_ok hresult]

theorem stdout_eq_iff_of_alike (h : Alike policy s.result t.result) :
    s.outcome.stdout = t.outcome.stdout ↔
      ∀ rendered, t.result = .ok rendered → ¬policy.ShowsPath rendered.html := by
  cases hs : s.result with
  | error failure =>
      rw [hs] at h
      cases ht : t.result with
      | error failure' => simp [(outcome_of_error hs).2, (outcome_of_error ht).2]
      | ok rendered =>
          rw [ht] at h
          cases h
  | ok rendered =>
      rw [hs] at h
      cases ht : t.result with
      | error failure =>
          rw [ht] at h
          cases h
      | ok bare =>
          rw [ht] at h
          have hsame : rendered.html = bare.html ↔ ¬policy.ShowsPath bare.html := h
          simp [stdout_of_ok hs, stdout_of_ok ht, hsame]

end Session

namespace Command

variable {c : Command} {files files₁ files₂ : Files} {host : String}

theorem result_coordinate?_of_hostAlone (hhost : c.host = some host) (hrepo : c.ownerRepo = none) :
    c.coordinate?.result = .ok none := by
  rw [coordinate?, hhost, hrepo]
  simp only [Session.result_bind, Session.result_tell, Session.result_pure]
  rfl

/-- Where the command line names no repository, the configuration alone makes the renderer. -/
theorem result_rendererOf_of_unnamed (h : c.coordinate?.result = .ok none) (config : Config) :
    (c.rendererOf config).result =
      (config.toRenderer.mapError .invalidConfig).map fun r =>
        { r with presents := r.presents && !c.sanitizedOnly } := by
  rw [rendererOf]
  simp only [Session.result_bind, Session.result_settle, Session.result_pure, h]
  cases config.toRenderer <;> rfl

theorem alike_runWith (hunnamed : c.coordinate?.result = .ok none) {config : Config}
    {k : Coordinate} (h : config.repository.mapM RepositoryFields.toCoordinate = .ok (some k))
    (hmade : k.Made) :
    Alike config.policy.overridden (c.runWith files config).result
      (c.runWith files config.withoutRepository).result := by
  rw [result_runWith, result_runWith, result_rendererOf_of_unnamed hunnamed,
    result_rendererOf_of_unnamed hunnamed, Config.toRenderer_of_accepted h]
  cases hrenderer : config.withoutRepository.toRenderer with
  | error cause => exact rfl
  | ok r =>
      obtain ⟨hpolicy, hbare⟩ := Config.bare_of_toRenderer hrenderer
      obtain ⟨-, -, hoverridden⟩ := PolicyOverrides.toPolicy_eq_ok_iff.1 hpolicy
      rw [hoverridden]
      refine Alike.bind fun text _ => Alike.mapError ?_ _
      exact Renderer.alike_renderKind (r := { r with presents := r.presents && !c.sanitizedOnly })
        hpolicy hbare hmade _ text

theorem stdout_run_eq_iff (hunnamed : c.coordinate?.result = .ok none)
    (hreadme : files₁ c.readme = files₂ c.readme) {path₁ path₂ : String}
    {loaded₁ loaded₂ : Reading Config} (h₁ : Config.load files₁ path₁ = .ok loaded₁)
    (h₂ : Config.load files₂ path₂ = .ok loaded₂)
    (hremoved : loaded₂.value = loaded₁.value.withoutRepository) :
    ((c.withConfig path₁).run files₁).outcome.stdout =
        ((c.withConfig path₂).run files₂).outcome.stdout ↔
      ∀ rendered, ((c.withConfig path₂).run files₂).result = .ok rendered →
        loaded₁.value.repository = none ∨
          loaded₁.value.AcceptsRepository ∧
            ¬loaded₁.value.policy.overridden.ShowsPath rendered.html := by
  have hisFile : files₁.isFile c.readme = files₂.isFile c.readme := by
    rw [Files.isFile, hreadme, Files.isFile]
  have hrun₁ := result_run_withConfig (c := c) h₁
  have hrun₂ := result_run_withConfig (c := c) h₂
  rw [hisFile, result_runWith_congr hreadme] at hrun₁
  rw [hremoved] at hrun₂
  generalize loaded₁.value = config at hrun₁ hrun₂ ⊢
  by_cases hnone : config.repository = none
  · have hsame : config.withoutRepository = config := by
      rw [Config.withoutRepository, ← hnone]
    rw [hsame, ← hrun₁] at hrun₂
    simp [hnone, (Session.outcome_congr hrun₂).2]
  · by_cases haccepted : config.AcceptsRepository
    · have halike : Alike config.policy.overridden ((c.withConfig path₁).run files₁).result
          ((c.withConfig path₂).run files₂).result := by
        obtain ⟨k, hk, hmade⟩ := Config.exists_made_of_accepted hnone haccepted
        rw [hrun₁, hrun₂]
        split
        · exact alike_runWith hunnamed hk hmade
        · exact rfl
      simp [Session.stdout_eq_iff_of_alike halike, hnone, haccepted]
    · -- A section that is refused ends the first run, whatever the second one does.
      have herror : ∃ failure, ((c.withConfig path₁).run files₁).result = .error failure := by
        rw [hrun₁]
        split
        · exact result_runWith_of_refused files₂ haccepted
        · exact ⟨_, rfl⟩
      obtain ⟨failure, hfailure⟩ := herror
      simp [Session.stdout_eq_iff_of_error hfailure, hnone, haccepted]

/-- **A host alone names no repository, and leaves the configured one in place.** The run ends as if
no host had been given. It prints the same as without the section about the repository exactly if
there is no such section, or nothing is rendered without it, or the section is accepted and no path
is shown on the page that is rendered without it. -/
theorem run_of_hostAlone (c : Command) {host : String} (hhost : c.host = some host)
    (hrepo : c.ownerRepo = none) {files₁ files₂ : Files}
    (hreadme : files₁ c.readme = files₂ c.readme) {path₁ path₂ : String}
    {loaded₁ loaded₂ : Reading Config} (h₁ : Config.load files₁ path₁ = .ok loaded₁)
    (h₂ : Config.load files₂ path₂ = .ok loaded₂)
    (hremoved : loaded₂.value = loaded₁.value.withoutRepository) :
    ((c.withConfig path₁).run files₁).result =
        (({ c with host := none }.withConfig path₁).run files₁).result ∧
      (((c.withConfig path₁).run files₁).outcome.stdout =
          ((c.withConfig path₂).run files₂).outcome.stdout ↔
        ∀ rendered, ((c.withConfig path₂).run files₂).result = .ok rendered →
          loaded₁.value.repository = none ∨
            loaded₁.value.AcceptsRepository ∧
              ¬loaded₁.value.policy.overridden.ShowsPath rendered.html) := by
  have hunnamed := result_coordinate?_of_hostAlone hhost hrepo
  refine ⟨?_, stdout_run_eq_iff hunnamed hreadme h₁ h₂ hremoved⟩
  have hhostless : ({ c with host := none } : Command).coordinate?.result = .ok none := rfl
  rw [result_run_withConfig h₁, result_run_withConfig h₁, result_runWith, result_runWith,
    result_rendererOf_of_unnamed hunnamed, result_rendererOf_of_unnamed hhostless]

/-! ## A host at work -/

def hostAlone : Command :=
  { readme := "README.md", host := some "github.com" }

theorem exists_load_linking :
    ∃ loaded₁ loaded₂,
      Config.load (linkingSite (repositoryAt "gitlab.com")) "c.toml" = .ok loaded₁ ∧
      Config.load (linkingSite "") "c.toml" = .ok loaded₂ ∧
      loaded₂.value = loaded₁.value.withoutRepository ∧ loaded₁.value.AcceptsRepository := by
  obtain ⟨loaded₁, h₁, hvalue₁, haccepted⟩ := exists_load_gitlab
  obtain ⟨loaded₂, h₂, hvalue₂⟩ := exists_load_empty
  refine ⟨loaded₁, loaded₂, h₁, h₂, ?_, haccepted⟩
  rw [hvalue₁, hvalue₂]
  rfl

theorem stdout_linking :
    ((hostAlone.withConfig "c.toml").run
        (linkingSite (repositoryAt "gitlab.com"))).outcome.stdout =
      "<p><a href=\"https://gitlab.com/o/r/-/raw/HEAD/b.md\" " ++
        "rel=\"nofollow noindex noopener external ugc\">a</a></p>\n\n" := by
  decide +kernel

theorem stdout_linking_bare :
    ((hostAlone.withConfig "c.toml").run (linkingSite "")).outcome.stdout =
      "<p><a href=\"b.md\" rel=\"nofollow noindex noopener external ugc\">a</a></p>\n\n" := by
  decide +kernel

/-- The link of the README is resolved, so without a repository the page shows a path. -/
theorem run_of_hostAlone_linking :
    ∃ loaded₁ loaded₂ rendered,
      Config.load (linkingSite (repositoryAt "gitlab.com")) "c.toml" = .ok loaded₁ ∧
      Config.load (linkingSite "") "c.toml" = .ok loaded₂ ∧
      loaded₂.value = loaded₁.value.withoutRepository ∧ loaded₁.value.AcceptsRepository ∧
      ((hostAlone.withConfig "c.toml").run (linkingSite "")).result = .ok rendered ∧
      loaded₁.value.policy.overridden.ShowsPath rendered.html := by
  obtain ⟨loaded₁, loaded₂, h₁, h₂, hremoved, haccepted⟩ := exists_load_linking
  have hreadme : linkingSite (repositoryAt "gitlab.com") hostAlone.readme =
      linkingSite "" hostAlone.readme := rfl
  have hiff := (run_of_hostAlone hostAlone rfl rfl hreadme h₁ h₂ hremoved).2
  rw [stdout_linking, stdout_linking_bare] at hiff
  have hfails := mt hiff.2 (by decide)
  simp only [not_forall, not_or, not_and, not_not] at hfails
  obtain ⟨rendered, hrendered, -, hpath⟩ := hfails
  exact ⟨loaded₁, loaded₂, rendered, h₁, h₂, hremoved, haccepted, hrendered, hpath haccepted⟩

/-- The configured repository is in use although the command line gives a host alone. -/
theorem not_run_of_hostAlone_linking :
    ∃ loaded₁ loaded₂,
      Config.load (linkingSite (repositoryAt "gitlab.com")) "c.toml" = .ok loaded₁ ∧
      Config.load (linkingSite "") "c.toml" = .ok loaded₂ ∧
      loaded₂.value = loaded₁.value.withoutRepository ∧
      linkingSite (repositoryAt "gitlab.com") hostAlone.readme =
        linkingSite "" hostAlone.readme ∧
      ((hostAlone.withConfig "c.toml").run
          (linkingSite (repositoryAt "gitlab.com"))).outcome.stdout ≠
        ((hostAlone.withConfig "c.toml").run (linkingSite "")).outcome.stdout := by
  obtain ⟨loaded₁, loaded₂, h₁, h₂, hremoved, -⟩ := exists_load_linking
  refine ⟨loaded₁, loaded₂, h₁, h₂, hremoved, rfl, ?_⟩
  rw [stdout_linking, stdout_linking_bare]
  decide

end Command

end SafeReadme
