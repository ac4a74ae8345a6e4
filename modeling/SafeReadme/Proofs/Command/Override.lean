import SafeReadme.Proofs.Command.Session
import SafeReadme.Proofs.Config.Overrides
import SafeReadme.Proofs.Sanitize.UrlFilter

/-!
# A repository on the command line

A repository of the command line takes the place of the one in the configuration once the whole
configuration is judged. So what the configuration says about its repository has no part in what is
printed, as long as it is accepted; a configuration whose repository is refused ends the run.
-/

namespace SafeReadme

/-! ## Sections about the repository -/

namespace Config

variable {config : Config}

def withoutRepository (config : Config) : Config :=
  { config with repository := none }

/-- The configuration says nothing about a repository, or it names one. -/
def AcceptsRepository (config : Config) : Prop :=
  ∀ fields ∈ config.repository, ∃ coordinate, fields.toCoordinate = .ok coordinate

theorem acceptsRepository_iff :
    config.AcceptsRepository ↔
      ∃ coordinate, config.repository.mapM RepositoryFields.toCoordinate = .ok coordinate := by
  unfold AcceptsRepository
  cases config.repository with
  | none => exact ⟨fun _ => ⟨none, rfl⟩, fun _ _ h => nomatch h⟩
  | some fields =>
      simp only [Option.mem_def, Option.some.injEq, forall_eq', Option.mapM_some]
      cases fields.toCoordinate <;> simp [Functor.map, Except.map]

/-- A repository that is accepted decides on the coordinate of the renderer only. -/
theorem toRenderer_of_accepted {coordinate : Option Coordinate}
    (h : config.repository.mapM RepositoryFields.toCoordinate = .ok coordinate) :
    config.toRenderer =
      config.withoutRepository.toRenderer.map fun r => { r with coordinate := coordinate } := by
  rw [toRenderer, renderer, h, toRenderer, renderer, withoutRepository]
  cases config.policy.toPolicy <;> rfl

theorem toRenderer_of_refused (h : ¬config.AcceptsRepository) :
    ∃ cause, config.toRenderer = .error cause := by
  rw [acceptsRepository_iff, not_exists] at h
  rw [toRenderer, renderer]
  cases config.policy.toPolicy with
  | error fault => exact ⟨_, rfl⟩
  | ok policy =>
      cases hrepository : config.repository.mapM RepositoryFields.toCoordinate with
      | error fault => exact ⟨_, rfl⟩
      | ok coordinate => exact absurd hrepository (h coordinate)

end Config

/-! ## Outcomes -/

namespace Session

variable {s t : Session Rendered}

theorem outcome_congr (h : s.result = t.result) :
    s.outcome.code = t.outcome.code ∧ s.outcome.stdout = t.outcome.stdout := by
  unfold outcome
  rw [h]
  cases t.result <;> exact ⟨rfl, rfl⟩

theorem outcome_of_error {failure : Failure} (h : s.result = .error failure) :
    s.outcome.code = 1 ∧ s.outcome.stdout = "" := by
  unfold outcome
  rw [h]
  exact ⟨rfl, rfl⟩

end Session

/-! ## Runs -/

def Files.ofTexts (texts : List (String × String)) : Files := fun path =>
  match texts.lookup path with
  | some text => .ok text.toUTF8
  | none => .error .missing

theorem Files.readText_ofTexts {texts : List (String × String)} {path text : String}
    (h : texts.lookup path = some text) : (ofTexts texts).readText path = .ok text := by
  have hdecoded : String.fromUTF8? text.toUTF8 = some text := by
    unfold String.fromUTF8?
    exact dif_pos text.isValidUTF8
  simp only [readText, ofTexts, h, bind, Except.bind, hdecoded]

namespace Command

variable {c : Command} {files files₁ files₂ : Files}

def withConfig (c : Command) (path : String) : Command :=
  { c with config := some path }

theorem result_run_withConfig {path : String} {loaded : Reading Config}
    (h : Config.load files path = .ok loaded) :
    ((c.withConfig path).run files).result =
      if files.isFile c.readme then (c.runWith files loaded.value).result
      else .error (.noReadme c.readme) :=
  result_run rfl h

/-- Of the files, only the README matters behind the configuration. -/
theorem result_runWith_congr (hreadme : files₁ c.readme = files₂ c.readme) (config : Config) :
    (c.runWith files₁ config).result = (c.runWith files₂ config).result := by
  rw [result_runWith, result_runWith, Files.readText, hreadme, Files.readText]

theorem result_runWith_of_refused (files : Files) {config : Config}
    (h : ¬config.AcceptsRepository) :
    ∃ failure, (c.runWith files config).result = .error failure := by
  obtain ⟨cause, hcause⟩ := Config.toRenderer_of_refused h
  rw [result_runWith, rendererOf, hcause]
  exact ⟨.invalidConfig cause, rfl⟩

theorem run_of_refused {path : String} {loaded : Reading Config}
    (h : Config.load files path = .ok loaded) (hrefused : ¬loaded.value.AcceptsRepository) :
    ((c.withConfig path).run files).outcome.code = 1 ∧
      ((c.withConfig path).run files).outcome.stdout = "" := by
  have hresult := result_run_withConfig (c := c) h
  obtain ⟨failure, hfailure⟩ := result_runWith_of_refused (c := c) files hrefused
  split at hresult
  · exact Session.outcome_of_error (hresult.trans hfailure)
  · exact Session.outcome_of_error hresult

/-- A repository of the command line stands in place of the configured one. -/
theorem result_rendererOf_of_accepted {host ownerRepo : String} (hhost : c.host = some host)
    (hrepo : c.ownerRepo = some ownerRepo) {config : Config} (h : config.AcceptsRepository) :
    (c.rendererOf config).result = (c.rendererOf config.withoutRepository).result := by
  obtain ⟨configured, haccepted⟩ := Config.acceptsRepository_iff.1 h
  rw [rendererOf, rendererOf, Config.toRenderer_of_accepted haccepted, coordinate?, hhost, hrepo]
  simp only [Session.result_bind, Session.result_settle, Session.result_note, Session.result_pure]
  cases config.withoutRepository.toRenderer with
  | error cause => rfl
  | ok renderer => cases Coordinate.make host ownerRepo (c.basePath.getD "") <;> rfl

/-- **A repository of the command line overrides the configured one, if that is accepted.** Of two
configurations that differ in what they say about the repository only, both accepted or both
refused, the same is printed and the run ends alike. A configuration whose repository is refused
ends the run with nothing printed, although the repository would not be used. -/
theorem run_of_overridden (c : Command) {host ownerRepo : String} (hhost : c.host = some host)
    (hrepo : c.ownerRepo = some ownerRepo) {files₁ files₂ : Files}
    (hreadme : files₁ c.readme = files₂ c.readme) {path₁ path₂ : String}
    {loaded₁ loaded₂ : Reading Config} (h₁ : Config.load files₁ path₁ = .ok loaded₁)
    (h₂ : Config.load files₂ path₂ = .ok loaded₂)
    (hrest : loaded₁.value.withoutRepository = loaded₂.value.withoutRepository) :
    ((loaded₁.value.AcceptsRepository ↔ loaded₂.value.AcceptsRepository) →
      ((c.withConfig path₁).run files₁).outcome.code =
          ((c.withConfig path₂).run files₂).outcome.code ∧
        ((c.withConfig path₁).run files₁).outcome.stdout =
          ((c.withConfig path₂).run files₂).outcome.stdout) ∧
      (¬loaded₁.value.AcceptsRepository →
        ((c.withConfig path₁).run files₁).outcome.code = 1 ∧
          ((c.withConfig path₁).run files₁).outcome.stdout = "") := by
  refine ⟨fun hsame => ?_, run_of_refused h₁⟩
  by_cases haccepted : loaded₁.value.AcceptsRepository
  · apply Session.outcome_congr
    have hisFile : files₁.isFile c.readme = files₂.isFile c.readme := by
      rw [Files.isFile, hreadme, Files.isFile]
    have hrun : (c.runWith files₁ loaded₁.value).result =
        (c.runWith files₂ loaded₂.value).result := by
      rw [result_runWith_congr hreadme, result_runWith, result_runWith,
        result_rendererOf_of_accepted hhost hrepo haccepted,
        result_rendererOf_of_accepted hhost hrepo (hsame.1 haccepted), hrest]
    rw [result_run_withConfig h₁, result_run_withConfig h₂, hisFile, hrun]
  · obtain ⟨hcode₁, hstdout₁⟩ := run_of_refused (c := c) h₁ haccepted
    obtain ⟨hcode₂, hstdout₂⟩ := run_of_refused (c := c) h₂ fun h => haccepted (hsame.2 h)
    exact ⟨hcode₁.trans hcode₂.symm, hstdout₁.trans hstdout₂.symm⟩

/-! ## Configurations at work -/

def overriding : Command :=
  { readme := "README.md", host := some "github.com", ownerRepo := some "o/r" }

/-- A README that links to a path, and a configuration. -/
def linkingSite (config : String) : Files :=
  .ofTexts [("README.md", "[a](b.md)\n"), ("c.toml", config)]

theorem exists_load_ofTexts {texts : List (String × String)} {path text : String}
    {config : Config} (hpath : texts.lookup path = some text)
    (h : (Config.read? text).map Reading.value = some config) :
    ∃ loaded, Config.load (.ofTexts texts) path = .ok loaded ∧ loaded.value = config := by
  obtain ⟨loaded, hread, rfl⟩ := Option.map_eq_some_iff.1 h
  refine ⟨loaded, ?_, rfl⟩
  rw [Config.load, Files.readText_ofTexts hpath]
  simp only [Config.parse, hread]

theorem exists_load_linkingSite (text : String) (config : Config)
    (h : (Config.read? text).map Reading.value = some config) :
    ∃ loaded, Config.load (linkingSite text) "c.toml" = .ok loaded ∧ loaded.value = config :=
  exists_load_ofTexts rfl h

def repositoryAt (host : String) : String :=
  "[repository]\nhost = \"" ++ host ++ "\"\nowner_repo = \"o/r\"\n"

theorem exists_load_empty :
    ∃ loaded, Config.load (linkingSite "") "c.toml" = .ok loaded ∧ loaded.value = {} :=
  exists_load_linkingSite "" {} (by decide +kernel)

theorem exists_load_gitlab :
    ∃ loaded, Config.load (linkingSite (repositoryAt "gitlab.com")) "c.toml" = .ok loaded ∧
      loaded.value = { repository := some ⟨"gitlab.com", "o/r", ""⟩ } ∧
      loaded.value.AcceptsRepository := by
  obtain ⟨loaded, h, hvalue⟩ := exists_load_linkingSite (repositoryAt "gitlab.com")
    { repository := some ⟨"gitlab.com", "o/r", ""⟩ } (by decide +kernel)
  have hfields : ∃ coordinate, RepositoryFields.toCoordinate ⟨"gitlab.com", "o/r", ""⟩ =
      .ok coordinate := ⟨⟨"gitlab.com", "o/r", []⟩, eq_ok_of_toOption (by decide +kernel)⟩
  refine ⟨loaded, h, hvalue, ?_⟩
  rw [hvalue]
  simpa [Config.AcceptsRepository] using hfields

theorem stdout_overriding :
    ((overriding.withConfig "c.toml").run (linkingSite "")).outcome.stdout =
      "<p><a href=\"https://raw.githubusercontent.com/o/r/HEAD/b.md\" " ++
        "rel=\"nofollow noindex noopener external ugc\">a</a></p>\n\n" := by
  decide +kernel

/-- The repository lies elsewhere, or there is none: the link leads to the one that is given. -/
theorem run_of_overridden_elsewhere :
    ∃ loaded₁ loaded₂,
      Config.load (linkingSite (repositoryAt "gitlab.com")) "c.toml" = .ok loaded₁ ∧
      Config.load (linkingSite "") "c.toml" = .ok loaded₂ ∧
      loaded₁.value.withoutRepository = loaded₂.value.withoutRepository ∧
      (loaded₁.value.AcceptsRepository ↔ loaded₂.value.AcceptsRepository) ∧
      ((overriding.withConfig "c.toml").run
          (linkingSite (repositoryAt "gitlab.com"))).outcome.stdout =
        ((overriding.withConfig "c.toml").run (linkingSite "")).outcome.stdout ∧
      ((overriding.withConfig "c.toml").run
          (linkingSite (repositoryAt "gitlab.com"))).outcome.stdout =
        "<p><a href=\"https://raw.githubusercontent.com/o/r/HEAD/b.md\" " ++
          "rel=\"nofollow noindex noopener external ugc\">a</a></p>\n\n" := by
  obtain ⟨loaded₁, h₁, hvalue₁, haccepted⟩ := exists_load_gitlab
  obtain ⟨loaded₂, h₂, hvalue₂⟩ := exists_load_empty
  have hrest : loaded₁.value.withoutRepository = loaded₂.value.withoutRepository := by
    rw [hvalue₁, hvalue₂]
    rfl
  have hsame : loaded₁.value.AcceptsRepository ↔ loaded₂.value.AcceptsRepository := by
    refine iff_of_true haccepted ?_
    rw [hvalue₂]
    simp [Config.AcceptsRepository]
  have hreadme : linkingSite (repositoryAt "gitlab.com") overriding.readme =
      linkingSite "" overriding.readme := rfl
  have hstdout := ((run_of_overridden overriding rfl rfl hreadme h₁ h₂ hrest).1 hsame).2
  exact ⟨loaded₁, loaded₂, h₁, h₂, hrest, hsame, hstdout, hstdout.trans stdout_overriding⟩

/-- A repository on no host at all is overridden, and ends the run all the same. -/
theorem not_run_of_overridden_nowhere :
    ∃ loaded₁ loaded₂, Config.load (linkingSite (repositoryAt "")) "c.toml" = .ok loaded₁ ∧
      Config.load (linkingSite "") "c.toml" = .ok loaded₂ ∧
      loaded₁.value.withoutRepository = loaded₂.value.withoutRepository ∧
      linkingSite (repositoryAt "") overriding.readme = linkingSite "" overriding.readme ∧
      ((overriding.withConfig "c.toml").run (linkingSite (repositoryAt ""))).outcome.code = 1 ∧
      ((overriding.withConfig "c.toml").run (linkingSite "")).outcome.code = 0 := by
  obtain ⟨loaded₁, h₁, hvalue₁⟩ := exists_load_linkingSite (repositoryAt "")
    { repository := some ⟨"", "o/r", ""⟩ } (by decide +kernel)
  obtain ⟨loaded₂, h₂, hvalue₂⟩ := exists_load_empty
  refine ⟨loaded₁, loaded₂, h₁, h₂, ?_, rfl, by decide +kernel, by decide +kernel⟩
  rw [hvalue₁, hvalue₂]
  rfl

end Command

end SafeReadme
