import SafeReadme.Text.Basic

/-!
# The text of a link

A link is judged as a browser reads it: without controls and spaces at both ends, and without tabs,
line feeds and carriage returns, so that `java\tscript:` is the `javascript:` it becomes.
-/

namespace SafeReadme.Url

def isControlOrSpace (c : Char) : Bool :=
  c.toNat ≤ 0x20

def isTabOrNewline (c : Char) : Bool :=
  c == '\t' || c == '\n' || c == '\r'

def canonical (value : String) : String :=
  String.ofList ((Text.trimBy isControlOrSpace value.toList).filter (fun c => !isTabOrNewline c))

/-! ## Schemes

A link has a scheme when the text before its first colon is an ASCII letter followed by letters,
digits, `+`, `-` and `.` only. The colon then stands before any `/`, `?` or `#`.
-/

def isSchemeChar (c : Char) : Bool :=
  c.isAlphanum || c == '+' || c == '-' || c == '.'

def isScheme : List Char → Bool
  | [] => false
  | c :: cs => c.isAlpha && cs.all isSchemeChar

def scheme? (link : String) : Option String :=
  match link.toList.span (· != ':') with
  | (_, []) => none
  | (candidate, _ :: _) =>
      if isScheme candidate then some (String.ofList candidate).toLower else none

/-! ## Suffixes -/

def startsSuffix (c : Char) : Bool :=
  c == '?' || c == '#'

/-- The path of a link and the suffix that starts at its first `?` or `#`. -/
def splitSuffix (link : String) : String × String :=
  let (path, suffix) := link.toList.span (fun c => !startsSuffix c)
  (String.ofList path, String.ofList suffix)

end SafeReadme.Url
