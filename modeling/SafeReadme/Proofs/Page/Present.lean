import SafeReadme.Page
import SafeReadme.Proofs.Page.ImageMirror
import SafeReadme.Proofs.Page.LeadingTitle
import SafeReadme.Proofs.Sanitize.ReadBack

/-!
# Presenting a written forest

Presentation rewrites flat text, without reading it as a document. On what a sanitizer writes it is
an operation on the tree all the same: both passes find the tags, and nothing else, where the forest
has them.
-/

namespace SafeReadme.Page

open Html

/-- A forest as a package page shows it. -/
def presented (nodes : List Node) : List Node :=
  mirrorForest (withoutTitle nodes)

/-- **Presentation is an operation on trees.** The written form of a forest with plain names is
presented by writing the forest without its leading title and with the images on raw hosts moved to
the mirror. What a policy from a configuration leaves has plain names. -/
theorem present_write (nodes : List Node) :
    ((∀ e ∈ elements nodes, e.Plain) → present (write nodes) = write (presented nodes)) ∧
      ∀ (overrides : PolicyOverrides) (policy : Policy) (coordinate : Option Coordinate),
        overrides.toPolicy = .ok policy →
          ∀ e ∈ elements (Sanitizer.walkForest ⟨policy, coordinate⟩ nodes).kept, e.Plain := by
  constructor
  · intro h
    have htitle : ∀ e ∈ elements (withoutTitle nodes), e.Plain :=
      fun e he => h e (elements_withoutTitle e he)
    rw [present, stripLeadingTitle_write h, mirrorImages_write htitle, presented]
  · intro overrides policy coordinate hpolicy
    exact Sanitizer.plain_of_mem_walkForest hpolicy coordinate nodes

/-- A nested heading of the level of the title, a value that looks like a source, and a source that
is not the first attribute. -/
theorem present_write_lookalikes :
    let image : List Attribute :=
      [⟨"alt", "<img src=\"https://raw.github.com/"⟩,
        ⟨"src", "https://raw.githubusercontent.com/o/r/HEAD/a&b.png"⟩]
    let nodes : List Node :=
      [.text "\n ", .element "h1" [⟨"id", "</h1>"⟩] [.element "h1" [] [.text "a"], .text "b"],
        .element "p" [] [.element "img" image []]]
    (∀ e ∈ elements nodes, e.Plain) ∧
      present (write nodes) =
        "<p><img alt=\"&lt;img src=&quot;https://raw.github.com/\" " ++
          "src=\"https://rawcdn.githack.com/o/r/HEAD/a&amp;b.png\" /></p>" := by
  intro image nodes
  have hplain : ∀ e ∈ elements nodes, e.Plain := by decide +kernel
  refine ⟨hplain, ((present_write nodes).1 hplain).trans ?_⟩
  decide +kernel

end SafeReadme.Page
