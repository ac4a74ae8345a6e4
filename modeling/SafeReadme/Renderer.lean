import SafeReadme.Markdown.Write
import SafeReadme.Page
import SafeReadme.Policy.Packagist
import SafeReadme.Sanitize.Walk

/-!
# Rendering

A renderer takes a README to the HTML of a package page: Markdown becomes HTML, HTML is sanitized,
and what is left is fitted to the page.
-/

namespace SafeReadme

structure Renderer where
  policy : Policy
  coordinate : Option Coordinate := none
  markdown : Markdown.Options := .extended
  presents : Bool := true

instance : Inhabited Renderer := ⟨{ policy := Policy.packagist }⟩

namespace Renderer

def sanitizer (r : Renderer) : Sanitizer :=
  ⟨r.policy, r.coordinate⟩

def finish (r : Renderer) (sanitized : Rendered) : Rendered :=
  if r.presents then { sanitized with html := Page.present sanitized.html } else sanitized

def renderHtml (r : Renderer) (html : String) : Except Refusal Rendered :=
  (r.sanitizer.sanitize html).map r.finish

/-- The HTML of a Markdown document before it is sanitized. The limit of the policy holds for the
document, too. -/
def convert (r : Renderer) (text : String) : Except Refusal String :=
  if r.policy.maxInputLength < text.utf8ByteSize then
    .error (.tooLarge text.utf8ByteSize r.policy.maxInputLength)
  else .ok (Markdown.toHtml r.markdown text)

def renderMarkdown (r : Renderer) (text : String) : Except Refusal Rendered := do
  r.renderHtml (← r.convert text)

end Renderer

end SafeReadme
