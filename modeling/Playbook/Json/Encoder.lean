import Playbook.Json.OfValue
import Playbook.Store

/-!
Writers of values as documents. What is written depends on the objects that there are, and a writer
may refuse whatever it likes. The writers given here take every object for what it is: a mapping is
written out as one, and anything else is opaque.
-/

namespace Playbook.Json

/-- Writes values among the objects of a store. What it refuses has no document at all. -/
structure Encoder (μ : Type) where
  write : Store μ → Value → Except Fault Json

namespace Encoder

variable {μ : Type}

/-- Writes out mapping objects; opaque ones may show as their text or not. A mapping that holds
itself would come to no end. -/
def standard (shows : Bool) : Encoder μ where
  write s v := if s.isCircular v then .error .circular else ofValue shows (s.snapshot true v)

/-- Nothing opaque is written. -/
def strict : Encoder μ := standard false

/-- What is opaque shows as its text. -/
def showing : Encoder μ := standard true

end Encoder

end Playbook.Json
