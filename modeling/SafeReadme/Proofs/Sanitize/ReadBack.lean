import SafeReadme.Proofs.Config.Overrides
import SafeReadme.Proofs.Html.StrictReadBack
import SafeReadme.Proofs.Sanitize.Accounting
import SafeReadme.Proofs.Sanitize.Allowlist

/-!
# The output is read as it was meant

A configuration names elements and attributes in plain characters only, and the names that a policy
lets through are those that its configuration or the preset names. So whatever stands in the texts
and values of a document, no character of them can be taken for a part of a tag: a reader that knows
nothing but the written shapes finds the tree that the walk left.
-/

namespace SafeReadme

open Html

namespace Policy

variable {p : Policy}

theorem Permits.plain {e : Element} (h : p.Permits e)
    (hp : p.Spells (fun name => isPlainName name = true)) : e.Plain := by
  refine ⟨hp.tag h.allowed, fun a ha => ?_, h.distinct⟩
  by_cases hforced : a.name ∈ (p.forcedAttributes e.tag).map Prod.fst
  · exact hp.forcedName hforced
  · exact hp.attribute (h.granted a ha hforced)

end Policy

namespace Sanitizer

theorem plain_of_mem_walkForest {p : PolicyOverrides} {policy : Policy}
    (hpolicy : p.toPolicy = .ok policy) (coordinate : Option Coordinate) (nodes : List Node) :
    ∀ e ∈ elements (walkForest ⟨policy, coordinate⟩ nodes).kept, e.Plain := by
  intro e he
  have hspells := PolicyOverrides.spells_of_toPolicy hpolicy
  have hnodup := PolicyOverrides.forcedAttributes_nodup hpolicy e.tag
  exact ((keeps_of_mem_walkForest _ nodes e he).permits hnodup).plain hspells

theorem mem_texts_of_mem_texts_walkForest {s : Sanitizer} {nodes : List Node} {content : String}
    (h : content ∈ texts (s.walkForest nodes).kept) : content ∈ texts nodes := by
  rw [texts_walkForest] at h
  exact ((sublist_visits s.dropsContent nodes).filterMap Visit.text?).subset h

/-- **The output cannot be confused.** Under every policy that a configuration can describe, and
whatever the texts and the values in the document are, the strict reader reads the written form of
what is kept completely, and finds the same tree, but for neighbouring texts, which become one, and
the content of void elements, which is not written. -/
theorem readStrictly?_write_walkForest {p : PolicyOverrides} {policy : Policy}
    (hpolicy : p.toPolicy = .ok policy) (coordinate : Option Coordinate) (nodes : List Node)
    (htexts : ∀ content ∈ texts nodes, content ≠ "") :
    readStrictly? (write (walkForest ⟨policy, coordinate⟩ nodes).kept) =
      some (merged (walkForest ⟨policy, coordinate⟩ nodes).kept) := by
  apply readStrictly?_write
  · exact plain_of_mem_pieces (plain_of_mem_walkForest hpolicy coordinate nodes)
  · exact fun content hcontent => htexts content (mem_texts_of_mem_texts_walkForest hcontent)

/-- A value and a text that look like tags, two texts that an element parts which makes way, content
that starts with a newline, and a void element with content. -/
theorem readStrictly?_write_walkForest_lookalikes :
    let p : PolicyOverrides := { extraElements := NameMap.empty.insert "div" ["align"] }
    let nodes : List Node :=
      [.element "div" [⟨"align", "\" src='><b>&lt;"⟩]
        [.text "</div>", .element "u" [] [.text "&amp;"], .element "pre" [] [.text "\n x"],
          .element "br" [] [.text "y"]]]
    let kept := (walkForest ⟨p.overridden, none⟩ nodes).kept
    p.toPolicy = .ok p.overridden ∧ (∀ content ∈ texts nodes, content ≠ "") ∧
      write kept = "<div align=\"&quot; src=&#39;&gt;&lt;b&gt;&amp;lt;\">&lt;/div&gt;&amp;amp;" ++
        "<pre>\n\n x</pre><br /></div>" ∧
      readStrictly? (write kept) = some (merged kept) := by
  intro p nodes kept
  have hpolicy : p.toPolicy = .ok p.overridden :=
    PolicyOverrides.toPolicy_eq_ok_iff.2 ⟨by decide +kernel, by decide +kernel, rfl⟩
  have htexts : ∀ content ∈ texts nodes, content ≠ "" := by decide +kernel
  exact ⟨hpolicy, htexts, by decide +kernel, readStrictly?_write_walkForest hpolicy none nodes htexts⟩

end Sanitizer

end SafeReadme
