/-!
Failures that code outside the library raises: a kind with a text.
-/

namespace Playbook

structure Failure where
  kind : String
  text : String
  deriving Repr, DecidableEq

/-- The text, or the kind when there is none. -/
def Failure.describe (f : Failure) : String := if f.text = "" then f.kind else f.text

end Playbook
