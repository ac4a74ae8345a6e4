import SafeReadme.Config.Read

/-!
# Sessions

A session is the course of a command: what it logs, and what comes of it or stops it. The log of a
session that was stopped is kept.
-/

namespace SafeReadme

inductive LogTag where
  | render
  | sanitize
  | warning
  | error
  deriving DecidableEq, Repr

namespace LogTag

def name : LogTag → String
  | render => "render"
  | sanitize => "sanitize"
  | warning => "warning"
  | error => "error"

def color : LogTag → String
  | render => "94"
  | sanitize => "92"
  | warning => "93"
  | error => "91"

def line (tag : LogTag) (text : String) : String :=
  "\x1b[1m\x1b[" ++ tag.color ++ "m[" ++ tag.name ++ "]\x1b[39m\x1b[0m " ++ text ++ "\n"

end LogTag

inductive Failure where
  | noReadme (path : String)
  | configNotLoaded (path : String) (cause : ConfigError)
  | invalidConfig (cause : ConfigError)
  | invalidRepository (cause : CoordinateError)
  | unreadable (path : String) (cause : FileProblem)
  | refused (path : String) (cause : Refusal)
  deriving DecidableEq, Repr

namespace Failure

/-- An error in words and its causes, each the cause of the one before it. -/
def printChain (message : String) (causes : List String) : String :=
  let indented := fun (mark margin cause : String) =>
    "\n" ++ mark ++ Text.joinWith ("\n" ++ margin) (Text.splitAt '\n' cause)
  let printed :=
    match causes with
    | [] => []
    | [cause] => [indented "    " "    " cause]
    | _ => causes.mapIdx fun i cause => indented ("    " ++ toString i ++ ": ") "       " cause
  "Error: " ++ message ++
    (if printed.isEmpty then "" else "\n\nCaused by:" ++ String.join printed) ++ "\n"

/-- The causes of an error in a configuration. Where TOML is malformed is not said. -/
def causesOf (error : ConfigError) : List String :=
  error.message ::
    match error with
    | .unreadable _ problem => [problem.message]
    | .malformed => ["TOML parse error"]
    | .invalid _ => []

def print : Failure → String
  | noReadme path =>
      LogTag.error.line ("README file \x60" ++ path ++ "\x60 not found") ++
        "usage: readme-render README.md github.com mondeja/leptos-fluent\n"
  | configNotLoaded path cause =>
      printChain ("failed to load config \x60" ++ path ++ "\x60") (causesOf cause)
  | invalidConfig cause => printChain cause.message []
  | invalidRepository cause => printChain "invalid repository" [cause.message]
  | unreadable path cause => printChain ("failed to read \x60" ++ path ++ "\x60") [cause.message]
  | refused path cause => printChain ("failed to render \x60" ++ path ++ "\x60") [cause.message]

end Failure

structure Session (α : Type) where
  log : String
  result : Except Failure α

namespace Session

def write (text : String) : Session Unit :=
  ⟨text, .ok ()⟩

def settle {α : Type} (result : Except Failure α) : Session α :=
  ⟨"", result⟩

def andThen {α β : Type} (s : Session α) (next : α → Session β) : Session β :=
  match s.result with
  | .ok a => ⟨s.log ++ (next a).log, (next a).result⟩
  | .error failure => ⟨s.log, .error failure⟩

instance : Monad Session where
  pure a := settle (.ok a)
  bind := andThen

def tell (tag : LogTag) (text : String) : Session Unit :=
  write (tag.line text)

def note (verbose : Bool) (tag : LogTag) (text : String) : Session Unit :=
  if verbose then tell tag text else pure ()

end Session

end SafeReadme
