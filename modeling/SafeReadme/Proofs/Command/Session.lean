import Mathlib.Tactic.Common
import SafeReadme.Command.Run

/-!
# What comes of a session

What is logged has no part in what comes of a session, so the result of a run can be told without the
log: the renderer that the configuration and the command line make is applied to the README.
-/

namespace SafeReadme

namespace Session

variable {α β : Type}

@[simp] theorem result_pure (a : α) : (pure a : Session α).result = .ok a := rfl

@[simp] theorem result_settle (result : Except Failure α) : (settle result).result = result := rfl

@[simp] theorem result_write (text : String) : (write text).result = .ok () := rfl

@[simp] theorem result_tell (tag : LogTag) (text : String) : (tell tag text).result = .ok () := rfl

@[simp] theorem result_note (verbose : Bool) (tag : LogTag) (text : String) :
    (note verbose tag text).result = .ok () := by
  cases verbose <;> rfl

@[simp] theorem result_bind (s : Session α) (next : α → Session β) :
    (s >>= next).result = s.result >>= fun a => (next a).result := by
  show (s.andThen next).result = _
  unfold andThen
  cases hresult : s.result <;> rfl

end Session

def Renderer.renderKind (r : Renderer) : InputKind → String → Except Refusal Rendered
  | .html, text => r.renderHtml text
  | .markdown, text => r.renderMarkdown text

namespace Command

variable {c : Command} {files : Files}

theorem result_loadConfig {path : String} (h : c.config = some path) :
    (c.loadConfig files).result =
      ((Config.load files path).mapError (.configNotLoaded path)).map Reading.value := by
  rw [loadConfig, h]
  simp only [Session.result_bind, Session.result_settle]
  cases Config.load files path with
  | error cause => rfl
  | ok loaded =>
      show (if !loaded.unknown.isEmpty then _ else _ : Session Config).result = .ok loaded.value
      split <;> rfl

theorem result_noteDrops (report : Report) : (c.noteDrops report).result = .ok () := by
  unfold noteDrops
  simp only [Session.result_bind, Session.result_write]
  show (if !report.isEmpty then _ else _ : Session Unit).result = .ok ()
  split
  · exact Session.result_note _ _ _
  · rfl

theorem result_renderHtml (r : Renderer) (html : String) :
    (c.renderHtml r html).result = (r.renderHtml html).mapError (.refused c.readme) := by
  unfold renderHtml
  cases r.coordinate <;>
    simp only [Session.result_bind, Session.result_pure, Session.result_settle,
      Session.result_note, result_noteDrops] <;>
    cases r.renderHtml html <;> rfl

theorem result_render (r : Renderer) (text : String) :
    (c.render r text).result =
      (r.renderKind (c.format.kind c.readme) text).mapError (.refused c.readme) := by
  unfold render
  cases c.format.kind c.readme with
  | html => exact result_renderHtml r text
  | markdown =>
      simp only [Session.result_bind, Session.result_settle, Session.result_note, result_renderHtml]
      rw [Renderer.renderKind, Renderer.renderMarkdown]
      cases r.convert text <;> rfl

theorem result_runWith (config : Config) :
    (c.runWith files config).result =
      (c.rendererOf config).result.bind fun renderer =>
        ((files.readText c.readme).mapError (.unreadable c.readme)).bind fun text =>
          (renderer.renderKind (c.format.kind c.readme) text).mapError (.refused c.readme) := by
  unfold runWith
  simp only [Session.result_bind, Session.result_settle, result_render]
  refine congrArg (Except.bind _) (funext fun renderer => ?_)
  refine congrArg (Except.bind _) (funext fun text => ?_)
  cases renderer.renderKind (c.format.kind c.readme) text with
  | error refusal => rfl
  | ok rendered =>
      show (if !rendered.report.isEmpty then _ else _ : Session Rendered).result = .ok rendered
      split
      · simp only [Session.result_bind, Session.result_note]
        rfl
      · rfl

theorem result_run {path : String} {loaded : Reading Config} (hpath : c.config = some path)
    (h : Config.load files path = .ok loaded) :
    (c.run files).result =
      if files.isFile c.readme then (c.runWith files loaded.value).result
      else .error (.noReadme c.readme) := by
  unfold run
  split
  · simp only [Session.result_bind, result_loadConfig hpath, h]
    rfl
  · rfl

end Command

end SafeReadme
