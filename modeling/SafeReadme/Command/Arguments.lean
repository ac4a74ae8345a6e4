import SafeReadme.Files

/-!
# Commands and arguments

A command names a README and says how to render it. Arguments are read from left to right, and the
first that asks for help or for the version, or that cannot be there, decides. What is missing shows
only at the end.
-/

namespace SafeReadme

/-! ## Commands -/

inductive InputKind where
  | markdown
  | html
  deriving DecidableEq, Repr

inductive InputFormat where
  | auto
  | always (kind : InputKind)
  deriving DecidableEq, Repr

/-- The kind of a README: HTML if its name ends in `.html` or `.htm`, in any case. -/
def InputKind.ofPath (path : String) : InputKind :=
  match (Files.name? path).bind Files.extension? with
  | some extension =>
      if ["html", "htm"].contains extension.toLower then .html else .markdown
  | none => .markdown

def InputFormat.kind (format : InputFormat) (path : String) : InputKind :=
  match format with
  | auto => InputKind.ofPath path
  | always kind => kind

structure Command where
  readme : String
  host : Option String := none
  /-- Never there without a host. -/
  ownerRepo : Option String := none
  /-- Never there without a repository. -/
  basePath : Option String := none
  config : Option String := none
  format : InputFormat := .auto
  /-- Whether the document stays as it is sanitized and is not fitted to a page. -/
  sanitizedOnly : Bool := false
  verbose : Bool := false
  deriving DecidableEq, Repr

/-! ## Arguments -/

inductive Request where
  | render (command : Command)
  | help
  | version
  | misuse
  deriving DecidableEq, Repr

namespace Arguments

inductive Setting where
  | basePath
  | config
  | format
  /-- When to use colours. The log has colours in any case. -/
  | color
  deriving DecidableEq, Repr

inductive Switch where
  | sanitizedOnly
  | verbose
  | help
  | version
  deriving DecidableEq, Repr

inductive Name where
  | setting (s : Setting)
  | switch (s : Switch)
  deriving DecidableEq, Repr

def Name.ofLong? : String → Option Name
  | "base-path" => some (.setting .basePath)
  | "config" => some (.setting .config)
  | "format" => some (.setting .format)
  | "color" => some (.setting .color)
  | "no-post-process" => some (.switch .sanitizedOnly)
  | "verbose" => some (.switch .verbose)
  | "help" => some (.switch .help)
  | "version" => some (.switch .version)
  | _ => none

def Name.ofShort? : Char → Option Name
  | 'b' => some (.setting .basePath)
  | 'C' => some (.setting .config)
  | 'f' => some (.setting .format)
  | 'v' => some (.switch .verbose)
  | 'h' => some (.switch .help)
  | 'V' => some (.switch .version)
  | _ => none

structure Seen where
  positional : List String := []
  settings : List (Setting × String) := []
  switches : List Switch := []
  waiting : Option Setting := none
  positionalOnly : Bool := false
  deriving DecidableEq, Repr

def format? : String → Option InputFormat
  | "auto" => some .auto
  | "markdown" => some (.always .markdown)
  | "html" => some (.always .html)
  | _ => none

def accepts (value : String) : Setting → Bool
  | .basePath => true
  | .config => !value.isEmpty
  | .format => (format? value).isSome
  | .color => ["auto", "always", "never"].contains value

def Seen.give (seen : Seen) (s : Setting) (value : String) : Except Request Seen :=
  if accepts value s && (seen.settings.lookup s).isNone then
    .ok { seen with settings := seen.settings ++ [(s, value)], waiting := none }
  else .error .misuse

def Seen.turnOn (seen : Seen) : Switch → Except Request Seen
  | .help => .error .help
  | .version => .error .version
  | s =>
      if seen.switches.contains s then .error .misuse
      else .ok { seen with switches := seen.switches ++ [s] }

def Seen.place (seen : Seen) (argument : String) : Except Request Seen :=
  if seen.positional.length < 3 && !(seen.positional.isEmpty && argument.isEmpty) then
    .ok { seen with positional := seen.positional ++ [argument] }
  else .error .misuse

def Seen.long (seen : Seen) (option : List Char) : Except Request Seen :=
  let (name, rest) := option.span (· != '=')
  match Name.ofLong? (String.ofList name), rest with
  | some (.setting s), _ :: value => seen.give s (String.ofList value)
  | some (.setting s), [] => .ok { seen with waiting := some s }
  | some (.switch s), [] => seen.turnOn s
  | _, _ => .error .misuse

/-- Takes short options. What follows an option with a value is its value, with or without an
equals sign between them. -/
def Seen.short (seen : Seen) : List Char → Except Request Seen
  | [] => .ok seen
  | c :: rest =>
      match Name.ofShort? c with
      | some (.switch s) => do (← seen.turnOn s).short rest
      | some (.setting s) =>
          match rest with
          | [] => .ok { seen with waiting := some s }
          | '=' :: value => seen.give s (String.ofList value)
          | value => seen.give s (String.ofList value)
      | none => .error .misuse

def Seen.take (seen : Seen) (argument : String) : Except Request Seen :=
  if seen.positionalOnly then seen.place argument
  else
    match argument.toList, seen.waiting with
    | '-' :: _ :: _, some _ => .error .misuse
    | ['-', '-'], none => .ok { seen with positionalOnly := true }
    | '-' :: '-' :: option, none => seen.long option
    | '-' :: c :: rest, none => seen.short (c :: rest)
    | _, some s => seen.give s argument
    | _, none => seen.place argument

def Seen.command? (seen : Seen) : Option Command := do
  let format := ((seen.settings.lookup .format).bind format?).getD .auto
  let common : Command := {
    readme := ← seen.positional[0]?
    host := seen.positional[1]?
    ownerRepo := seen.positional[2]?
    basePath := seen.settings.lookup .basePath
    config := seen.settings.lookup .config
    format
    sanitizedOnly := seen.switches.contains .sanitizedOnly
    verbose := seen.switches.contains .verbose }
  if seen.waiting.isSome || (common.basePath.isSome && common.ownerRepo.isNone) then none
  else some common

end Arguments

def Request.ofArguments (arguments : List String) : Request :=
  match arguments.foldlM Arguments.Seen.take {} with
  | .error request => request
  | .ok seen =>
      match seen.command? with
      | some command => .render command
      | none => .misuse

end SafeReadme
