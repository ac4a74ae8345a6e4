import SafeReadme.Text.Basic
import SafeReadme.Url.Basic
import SafeReadme.Url.Host

/-!
# Web addresses

The reading of an absolute address with a scheme that has hosts and a default port, as browsers do
it. Only the authority can make it fail: every text is a path, a query and a fragment. Where positions
are counted in 32 bits, an address of 4 GiB or more is refused as well; this is left out.
-/

namespace SafeReadme.Url

structure Address where
  scheme : String
  username : String
  password : String
  host : Host
  /-- The port, unless it is the default of the scheme. -/
  port : Option Nat
  path : List String
  query : Option String
  fragment : Option String
  deriving DecidableEq, Repr

namespace Address

def defaultPorts : List (String × Nat) :=
  [("http", 80), ("https", 443), ("ws", 80), ("wss", 443), ("ftp", 21)]

def isSlash (c : Char) : Bool :=
  c == '/' || c == '\\'

def endsAuthority (c : Char) : Bool :=
  isSlash c || c == '?' || c == '#'

/-- The text before the last `@` and the text after it; without an `@`, only the latter. -/
def splitUserinfo (authority : List Char) : List Char × List Char :=
  match authority.reverse.span (· != '@') with
  | (_, []) => ([], authority)
  | (host, _ :: userinfo) => (userinfo.reverse, host.reverse)

/-- The text of the host, and what follows the first colon outside brackets. -/
def splitPort : (inBrackets : Bool) → List Char → List Char × Option (List Char)
  | _, [] => ([], none)
  | inBrackets, c :: cs =>
      if c == ':' && !inBrackets then ([], some cs)
      else
        let inBrackets := if c == '[' then true else if c == ']' then false else inBrackets
        let (host, port) := splitPort inBrackets cs
        (c :: host, port)

/-- The port that the text after the colon writes; nothing and the default port write none. -/
def port? (default : Nat) (text : List Char) : Option (Option Nat) :=
  if text.isEmpty then some none
  else if !text.all Char.isDigit then none
  else
    let value := text.foldl (fun value c => value * 10 + (c.toNat - 0x30)) 0
    if value > 65535 then none else some (if value = default then none else some value)

def isSingleDot (segment : List Char) : Bool :=
  segment == ['.'] || segment.map Char.toLower == ['%', '2', 'e']

def isDoubleDot (segment : List Char) : Bool :=
  let dots := [['.'], ['%', '2', 'e']]
  dots.any (fun a => dots.any (fun b => segment.map Char.toLower == a ++ b))

/-- The path after each segment has been applied in turn. A dot segment at the end leaves an empty
segment, so that the path still names a directory. -/
def resolveSegments (path : List (List Char)) : List (List Char) → List (List Char)
  | [] => path
  | segment :: rest =>
      let above := if isDoubleDot segment then path.dropLast else path
      let here := isDoubleDot segment || isSingleDot segment
      if here then resolveSegments (if rest.isEmpty then above ++ [[]] else above) rest
      else resolveSegments (path ++ [segment]) rest

def mustEscape (extra : List Char) (c : Char) : Bool :=
  c.toNat < 0x20 || c.toNat == 0x7F || extra.contains c

def escapeSegment (segment : List Char) : String :=
  encode (mustEscape [' ', '"', '#', '<', '>', '?', '\x60', '\x7b', '\x7d', '^'])
    (String.ofList segment)

def readPath (text : List Char) : List String :=
  let segments := Text.fields isSlash (if (text.head?.map isSlash).getD false then text.drop 1 else text)
  (resolveSegments [] segments).map escapeSegment

/-- Reads an absolute address; `none` if a browser would refuse it. -/
def parse? (text : String) : Option Address := do
  let cleaned := canonical text
  let scheme ← scheme? cleaned
  let default ← defaultPorts.lookup scheme
  let afterScheme := (cleaned.toList.dropWhile (· != ':')).drop 1
  let (authority, rest) := Text.breakAt endsAuthority (afterScheme.dropWhile isSlash)
  let (userinfo, hostAndPort) := splitUserinfo authority
  let (hostText, portText) := splitPort false hostAndPort
  if hostText.isEmpty then none
  else
    let host ← Host.parse? hostText
    let port ← port? default (portText.getD [])
    let (beforeFragment, fragment) := Text.breakAt (· == '#') rest
    let (path, query) := Text.breakAt (· == '?') beforeFragment
    let (username, password) := Text.breakAt (· == ':') userinfo
    some {
      scheme, host, port
      username := String.ofList username
      password := String.ofList (password.drop 1)
      path := readPath path
      query := query.head?.map fun _ => encode (mustEscape [' ', '"', '#', '<', '>', '\x27'])
        (String.ofList (query.drop 1))
      fragment := fragment.head?.map fun _ => encode (mustEscape [' ', '"', '<', '>', '\x60'])
        (String.ofList (fragment.drop 1)) }

def authority (a : Address) : String :=
  match a.port with
  | some port => a.host.print ++ ":" ++ toString port
  | none => a.host.print

end Address

end SafeReadme.Url
