import SafeReadme.Policy.Draft

/-!
# The Packagist policy

The table with which Packagist shows the README of a package.
-/

namespace SafeReadme.Policy

def plainElements : List String :=
  ["p", "br", "small",
    "strong", "b", "em", "i", "strike",
    "sub", "sup", "ins", "del",
    "ol", "ul", "li",
    "h1", "h2", "h3", "h4", "h5", "h6",
    "dl", "dd", "dt",
    "pre", "code", "samp", "kbd",
    "q", "blockquote", "abbr", "cite",
    "table", "thead", "tbody", "tr",
    "span", "summary"]

def linkRelation : String :=
  "nofollow noindex noopener external ugc"

def packagistSteps : List Step :=
  plainElements.map (fun tag => .allowElement tag []) ++
    [.allowElement "img" ["src", "title", "alt", "width", "height"],
      .allowElement "a" ["href", "target", "id"],
      .allowElement "td" ["colspan", "rowspan"],
      .allowElement "th" ["colspan", "rowspan"],
      .allowElement "details" ["open"],
      .allowAttribute "align" ["th", "td", "p", "h1", "h2", "h3", "h4", "h5", "h6"],
      .allowGlobalAttribute "class",
      .allowLinkSchemes ["https", "http", "mailto"],
      .forceAttribute "a" "rel" linkRelation,
      .allowRelativeLinks true,
      .allowRelativeMedia true,
      .maxInputLength Draft.defaultMaxInputLength]

def packagist : Policy :=
  (Draft.empty.applyAll packagistSteps).finish

end SafeReadme.Policy
