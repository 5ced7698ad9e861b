import Playbook.Schema.Issue
import Playbook.Template
import Playbook.Text.Utf8
import Playbook.Yaml.Problem

/-!
Why a configuration could not be obtained. The errors of the configuration family have a kind and
a message that starts with the opening of its kind; a scalar of the wrong form is a fault outside
the family.
-/

namespace Playbook

/-- The ways in which obtaining a configuration fails. -/
inductive ConfigError where
  | fileNotFound (path : String)
  | notReadable (path detail : String)
  | notUtf8 (path : String) (error : Text.Utf8Error)
  | malformed (problem : Yaml.Problem)
  | notMapping
  | unset (reference : Template.UnsetVariable)
  | invalid (issues : List Schema.Issue)
  deriving Repr, DecidableEq

/-- The kinds that callers tell apart. -/
inductive ConfigErrorKind where
  | fileNotFound
  | parse
  | interpolation
  | validation
  deriving Repr, DecidableEq

def ConfigErrorKind.name : ConfigErrorKind → String
  | .fileNotFound => "file-not-found"
  | .parse => "parse-error"
  | .interpolation => "interpolation-error"
  | .validation => "validation-error"

/-- What the messages of a kind start with. -/
def ConfigErrorKind.opening : ConfigErrorKind → String
  | .fileNotFound => "Configuration file not"
  | .parse => "YAML parsing error"
  | .interpolation => Template.UnsetVariable.opening
  | .validation => "Configuration validation failed"

namespace ConfigError

def kind : ConfigError → ConfigErrorKind
  | .fileNotFound _ | .notReadable _ _ => .fileNotFound
  | .notUtf8 _ _ | .malformed _ | .notMapping => .parse
  | .unset _ => .interpolation
  | .invalid _ => .validation

/-- One issue as a line; the document itself is its root. -/
def issueLine (i : Schema.Issue) : String :=
  let path := i.path.text
  (if path = "" then "root" else path) ++ ": " ++ i.cause.message

/-- The issues as lines. -/
def issueLines (issues : List Schema.Issue) : List String := issues.map issueLine

def message : ConfigError → String
  | .fileNotFound path => "Configuration file not found: " ++ path
  | .notReadable path detail => "Configuration file not readable: " ++ path ++ ": " ++ detail
  | .notUtf8 path error =>
    "YAML parsing error: " ++ path ++ " is not valid UTF-8 (" ++ error.message ++ ")"
  | .malformed problem => "YAML parsing error: " ++ problem.message
  | .notMapping => "YAML parsing error: Configuration must be a valid YAML object"
  | .unset reference => reference.message
  | .invalid issues =>
    "Configuration validation failed:\n" ++ String.intercalate "\n" (issueLines issues)

end ConfigError

/-- Why loading fails: an error of the family, or a fault outside of it. -/
inductive LoadError where
  | config (e : ConfigError)
  | fault (kind : Yaml.Misfit)
  deriving Repr, DecidableEq

end Playbook
