import SafeReadme.Command.Arguments
import SafeReadme.Command.Session

/-!
# Running a command

The configuration makes a renderer, the repository of the command line takes the place of its
repository, and the README is rendered.
-/

namespace SafeReadme

namespace Command

def loadConfig (c : Command) (files : Files) : Session Config := do
  match c.config with
  | none => return {}
  | some path =>
      let r ← Session.settle ((Config.load files path).mapError (.configNotLoaded path))
      if !r.unknown.isEmpty then
        let name := (Files.name? path).getD path
        Session.tell .warning ("unknown fields in " ++ name ++ ", ignoring:")
        Session.write (String.join (r.unknown.map fun field => "- " ++ field ++ "\n"))
      return r.value

/-- The repository of the command line. A host alone names none. -/
def coordinate? (c : Command) : Session (Option Coordinate) :=
  match c.host, c.ownerRepo with
  | some host, some ownerRepo => do
      let coordinate ← Session.settle
        ((Coordinate.make host ownerRepo (c.basePath.getD "")).mapError .invalidRepository)
      Session.note c.verbose .render ("repository: " ++ coordinate.print)
      return some coordinate
  | some host, none => do
      Session.tell .warning
        ("host \x60" ++ host ++ "\x60 given without owner/repo, relative URLs are left as-is")
      return none
  | none, _ => return none

/-- The renderer of a configuration. A repository of the command line takes the place of the one in
the configuration. -/
def rendererOf (c : Command) (config : Config) : Session Renderer := do
  let renderer ← Session.settle (config.toRenderer.mapError .invalidConfig)
  let coordinate ← c.coordinate?
  return { renderer with
    coordinate := coordinate.or renderer.coordinate
    presents := renderer.presents && !c.sanitizedOnly }

def noteDrops (c : Command) (report : Report) : Session Unit := do
  Session.write (if c.verbose then
      String.join (report.drops.map fun d =>
        LogTag.sanitize.line ("dropped " ++ d.subject ++ ": " ++ d.reason.message))
    else "")
  if !report.isEmpty then
    Session.note c.verbose .sanitize ("dropped " ++ toString report.elements.length ++
      " element(s), " ++ toString report.attributes.length ++ " attribute(s)")

def renderHtml (c : Command) (renderer : Renderer) (html : String) : Session Rendered := do
  match renderer.coordinate with
  | some coordinate =>
      Session.note c.verbose .render ("resolving relative URLs against " ++ coordinate.print)
  | none => pure ()
  let rendered ← Session.settle ((renderer.renderHtml html).mapError (.refused c.readme))
  c.noteDrops rendered.report
  return rendered

def render (c : Command) (renderer : Renderer) (text : String) : Session Rendered := do
  match c.format.kind c.readme with
  | .html => c.renderHtml renderer text
  | .markdown =>
      let html ← Session.settle ((renderer.convert text).mapError (.refused c.readme))
      Session.note c.verbose .render ("markdown converted: " ++ toString text.utf8ByteSize ++
        " -> " ++ toString html.utf8ByteSize ++ " bytes")
      c.renderHtml renderer html

def runWith (c : Command) (files : Files) (config : Config) : Session Rendered := do
  let renderer ← c.rendererOf config
  let text ← Session.settle ((files.readText c.readme).mapError (.unreadable c.readme))
  let rendered ← c.render renderer text
  if !rendered.report.isEmpty then
    Session.note c.verbose .render (toString rendered.report.size ++ " item(s) dropped:")
    Session.write (if c.verbose then rendered.report.print else "")
  return rendered

def run (c : Command) (files : Files) : Session Rendered := do
  if files.isFile c.readme then
    let config ← c.loadConfig files
    c.runWith files config
  else Session.settle (.error (.noReadme c.readme))

end Command

structure Outcome where
  code : Nat
  stdout : String
  stderr : String
  deriving DecidableEq, Repr

def Session.outcome (s : Session Rendered) : Outcome :=
  match s.result with
  | .ok rendered => ⟨0, rendered.html ++ "\n", s.log⟩
  | .error failure => ⟨1, "", s.log ++ failure.print⟩

def helpText : String :=
  String.join ([
    "render untrusted package READMEs into embeddable HTML with Packagist's sanitization rules",
    "",
    "Usage: readme-render [OPTIONS] <FILE> [HOST] [OWNER_REPO]",
    "",
    "Arguments:",
    "  <FILE>        README file to render (markdown or HTML)",
    "  [HOST]        Repository host (e.g., github.com)",
    "  [OWNER_REPO]  Repository as owner/repo (e.g., mondeja/leptos-fluent)",
    "",
    "Options:",
    "  -b, --base-path <BASE_PATH>  Directory of the README inside the repository (e.g., docs/)",
    "  -C, --config <CONFIG>        Policy config file (default: the Packagist policy)",
    "  -f, --format <FORMAT>        Input format (default: from the file extension) "
      ++ "[default: auto] [possible values: auto, markdown, html]",
    "      --no-post-process        Skip the title strip and CDN image rewrite",
    "  -v, --verbose                Show what was dropped and why",
    "      --color <COLOR>          Control colored output (auto, always, never) "
      ++ "[default: auto] [possible values: auto, always, never]",
    "  -h, --help                   Print help",
    "  -V, --version                Print version"].map (· ++ "\n"))

def Outcome.ofArguments (arguments : List String) (files : Files) : Outcome :=
  match Request.ofArguments arguments with
  | .render command => (command.run files).outcome
  | .help => ⟨0, helpText, ""⟩
  | .version => ⟨0, "readme-renderer 0.1.0\n", ""⟩
  | .misuse => ⟨2, "", helpText⟩

end SafeReadme
