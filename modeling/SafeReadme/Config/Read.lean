import SafeReadme.Config.Basic
import SafeReadme.Config.Renderer
import SafeReadme.Files
import SafeReadme.Toml.Read

/-!
# Reading configurations

A section is a table whose fields have known names, or an array with the values of the fields in
order. Fields of other names are passed over and reported by their paths. Reading a file, reading
TOML and judging the values can each fail.
-/

namespace SafeReadme

namespace Toml

def Value.string? : Value → Option String
  | .string text => some text
  | _ => none

def Value.boolean? : Value → Option Bool
  | .boolean b => some b
  | _ => none

def Value.nat? : Value → Option Nat
  | .integer n => if n < 0 then none else some n.toNat
  | _ => none

def Value.elements? : Value → Option (List Value)
  | .array values => some values
  | .tables ts => some (ts.map (.table .element))
  | _ => none

def Value.list? {α : Type} (read : Value → Option α) (v : Value) : Option (List α) := do
  (← v.elements?).mapM read

/-- The key under which a moment stands for itself where a table is asked for. -/
def momentKey : String :=
  "$__toml_private_datetime"

def Value.entries? : Value → Option Entries
  | .table _ es => some es
  | .moment text => some [(momentKey, .string text)]
  | _ => none

def Value.map? {α : Type} (read : Value → Option α) (v : Value) : Option (NameMap α) := do
  (← v.entries?).foldlM (fun map e => return map.insert e.1 (← read e.2)) NameMap.empty

/-- The fields of a section. Without names, the values belong to `names` in order. -/
def Value.fields? (names : List String) (v : Value) : Option Entries :=
  match v.elements? with
  | some values => some (names.zip values)
  | none => v.entries?

end Toml

open Toml (Value Entries)

structure Reading (α : Type) where
  value : α
  unknown : List String := []

def Reading.ofFields {α : Type} (path : String) (names : List String)
    (set : α → String → Value → Option α) (start : α) (fields : Entries) : Option (Reading α) :=
  fields.foldlM (fun r (name, v) =>
      if names.contains name then do return { r with value := ← set r.value name v }
      else some { r with unknown := r.unknown ++ [path ++ name] })
    ⟨start, []⟩

namespace PolicyOverrides

def names : List String :=
  ["elements", "extra_elements", "global_attributes", "forced_attributes", "link_schemes",
    "media_schemes", "allow_relative_links", "allow_relative_media", "max_input_length",
    "removed_with_content"]

def set (p : PolicyOverrides) (name : String) (v : Value) : Option PolicyOverrides := do
  let texts := Value.list? Value.string?
  match name with
  | "elements" => return { p with elements := ← v.map? texts }
  | "extra_elements" => return { p with extraElements := ← v.map? texts }
  | "global_attributes" => return { p with globalAttributes := ← texts v }
  | "forced_attributes" =>
      return { p with forcedAttributes := ← v.map? (Value.map? Value.string?) }
  | "link_schemes" => return { p with linkSchemes := ← texts v }
  | "media_schemes" => return { p with mediaSchemes := ← texts v }
  | "allow_relative_links" => return { p with relativeLinks := ← v.boolean? }
  | "allow_relative_media" => return { p with relativeMedia := ← v.boolean? }
  | "max_input_length" => return { p with maxInputLength := ← v.nat? }
  | "removed_with_content" => return { p with removedWithContent := ← texts v }
  | _ => none

def read? (v : Value) : Option (Reading PolicyOverrides) := do
  Reading.ofFields "policy." names set {} (← v.fields? names)

end PolicyOverrides

namespace RepositoryFields

/-- The fields of the section `repository`; all but the last must be there. -/
def names : List String :=
  ["host", "owner_repo", "base_path"]

def set (r : RepositoryFields) (name : String) (v : Value) : Option RepositoryFields := do
  match name with
  | "host" => return { r with host := ← v.string? }
  | "owner_repo" => return { r with ownerRepo := ← v.string? }
  | "base_path" => return { r with basePath := ← v.string? }
  | _ => none

def read? (v : Value) : Option (Reading RepositoryFields) := do
  let fields ← v.fields? names
  if ["host", "owner_repo"].all fun name => (fields.find? name).isSome then
    Reading.ofFields "repository.?." names set ⟨"", "", ""⟩ fields
  else none

end RepositoryFields

namespace PageFlags

def names : List String :=
  ["post_process", "gfm"]

def set (p : PageFlags) (name : String) (v : Value) : Option PageFlags := do
  match name with
  | "post_process" => return { p with presents := ← v.boolean? }
  | "gfm" => return { p with extended := ← v.boolean? }
  | _ => none

def read? (v : Value) : Option (Reading PageFlags) := do
  Reading.ofFields "render." names set {} (← v.fields? names)

end PageFlags

namespace Config

def readSection (r : Reading Config) (name : String) (v : Value) : Option (Reading Config) := do
  match name with
  | "policy" =>
      let part ← PolicyOverrides.read? v
      return ⟨{ r.value with policy := part.value }, r.unknown ++ part.unknown⟩
  | "repository" =>
      let part ← RepositoryFields.read? v
      return ⟨{ r.value with repository := part.value }, r.unknown ++ part.unknown⟩
  | "render" =>
      let part ← PageFlags.read? v
      return ⟨{ r.value with page := part.value }, r.unknown ++ part.unknown⟩
  | _ => return { r with unknown := r.unknown ++ [name] }

def ofEntries? (es : Entries) : Option (Reading Config) :=
  es.foldlM (fun r (name, v) => readSection r name v) ⟨{}, []⟩

def read? (text : String) : Option (Reading Config) := do
  ofEntries? (← Toml.read? text)

end Config

/-! ## Files -/

inductive ConfigError where
  | unreadable (path : String) (problem : FileProblem)
  | malformed
  | invalid (fault : Fault)
  deriving DecidableEq, Repr

def ConfigError.message : ConfigError → String
  | unreadable path _ => "IO error when reading \x60" ++ path ++ "\x60"
  | malformed => "config file parsing error"
  | invalid fault => "config validation error: " ++ fault.message

namespace Config

def parse (text : String) : Except ConfigError (Reading Config) :=
  match read? text with
  | some r => .ok r
  | none => .error .malformed

def load (files : Files) (path : String) : Except ConfigError (Reading Config) :=
  match files.readText path with
  | .ok text => parse text
  | .error problem => .error (.unreadable path problem)

def toRenderer (c : Config) : Except ConfigError Renderer :=
  c.renderer.mapError .invalid

end Config

end SafeReadme
