import Playbook.Value

/-!
What running commands comes to: a result for each attempted command, and the account of a run.
-/

namespace Playbook

/-- What a run works against: a window in the same process, or one behind a protocol. -/
inductive Backend where
  | inProcess
  | remote
  deriving Repr, DecidableEq

def Backend.name : Backend → String
  | .inProcess => "happy-dom"
  | .remote => "cdp"

/-- The backends by name. -/
def Backend.choices : List (String × Backend) :=
  [Backend.inProcess, .remote].map fun b => (b.name, b)

/-- Kinds of command failures. -/
inductive ErrorType where
  | selectorNotFound
  | timeout
  | validationError
  | executionError
  | interpolationError
  deriving Repr, DecidableEq

def ErrorType.name : ErrorType → String
  | .selectorNotFound => "selector_not_found"
  | .timeout => "timeout"
  | .validationError => "validation_error"
  | .executionError => "execution_error"
  | .interpolationError => "env_interpolation_error"

/-- The kinds of failures by name. -/
def ErrorType.choices : List (String × ErrorType) :=
  [ErrorType.selectorNotFound, .timeout, .validationError, .executionError, .interpolationError].map
    fun t => (t.name, t)

/-- Where and when a command failed. -/
structure ErrorContext where
  url : String
  timestamp : Int
  deriving Repr, DecidableEq

/-- What a failed command reports. -/
structure CommandError where
  type : ErrorType
  message : String
  selector : Option String
  context : ErrorContext
  suggestions : Option (List String)
  deriving Repr, DecidableEq

/-- The outcome of one attempted command. -/
structure CommandResult where
  command : String
  /-- The position of the command in its row. -/
  index : Nat
  success : Bool
  /-- Milliseconds. -/
  duration : Nat
  error : Option CommandError
  /-- Whatever the command hands back. -/
  data : Value

/-- A failed result with the given error. -/
def CommandResult.failed (command : String) (index : Nat) (error : CommandError) : CommandResult :=
  { command, index, success := false, duration := 0, error := some error, data := .null }

/-- The account of a run. -/
structure RunResult where
  success : Bool
  configName : Option String
  backend : Option Backend
  totalCommands : Int
  successCount : Int
  errorCount : Int
  /-- Milliseconds. -/
  duration : Int
  results : List CommandResult

end Playbook
