import Playbook.Engine.Scene

/-!
What may be raised where an engine catches nothing. Settings are written out as a document when a
run opens, failures are put on record with texts that come from outside, values that were left in a
context are asked whether they count as true, and so is the callback that follows the progress of a
run. All of that is code from outside, and all of it may raise. As a rule nothing is raised, and
then there are no hazards.
-/

namespace Playbook

/-- What is raised by code from outside that is not called as a collaborator. -/
structure Hazards (κ σ : Type) where
  /-- When settings are written out as a document. -/
  writing : Settings → Scene κ σ → Option Failure
  /-- When a value is asked whether it counts as true. -/
  asking : Value → Scene κ σ → Option Failure
  /-- When a progress callback is asked whether it counts as true. -/
  following : κ → Option Failure
  /-- When a failure with a message is put on record. Neither the message nor the URL of the active
  window need be text that a record takes. -/
  failing : String → Scene κ σ → Option Failure

/-- What ends a run before its account. -/
inductive Escape where
  /-- A time without a time stamp. -/
  | clock (f : Clock.Fault)
  /-- Something raised where nothing catches it. -/
  | raised (f : Failure)
  deriving Repr, DecidableEq

namespace Hazards

variable {κ σ : Type}

/-- Nothing is raised. -/
def never : Hazards κ σ where
  writing _ _ := none
  asking _ _ := none
  following _ := none
  failing _ _ := none

/-- What is raised when the settings of a configuration are written out, if it has any. -/
def unwritten? (hz : Hazards κ σ) (config : Config) (s : Scene κ σ) : Option Failure :=
  config.settings.toOption.bind fun settings => hz.writing settings s

end Hazards

end Playbook
