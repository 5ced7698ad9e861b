import Playbook.Registry

/-!
What is asked of registries, and what they answer. Calls come one after another, on any of the
registries of a process; the helpers of the process call its default registry, whichever that is by
then.
-/

namespace Playbook

variable {ε : Type}

namespace Registry

inductive Call (ε : Type) where
  /-- The candidate is nothing when it cannot be called. -/
  | register (name : String) (candidate : Option ε)
  | unregister (name : String)
  | get (name : String)
  | has (name : String)
  | size
  | names
  | clear

inductive Answer (ε : Type) where
  | done
  | refused (e : RegistrationError)
  | executor (found : Option ε)
  | truth (b : Bool)
  | count (n : Nat)
  | names (names : List String)
  deriving DecidableEq

def perform (r : Registry ε) : Call ε → Answer ε × Registry ε
  | .register name candidate =>
    match r.register name candidate with
    | .error e => (.refused e, r)
    | .ok registered => (.done, registered)
  | .unregister name =>
    let (found, rest) := r.unregister name
    (.truth found, rest)
  | .get name => (.executor (r.get? name), r)
  | .has name => (.truth (r.contains name), r)
  | .size => (.count r.size, r)
  | .names => (.names r.names, r)
  | .clear => (.done, r.clear)

end Registry

namespace Registries

inductive Call (ε : Type) where
  /-- A call on the named registry, or on the default one when none is named. -/
  | on (which : Option String) (call : Registry.Call ε)
  /-- Replaces the default registry. The old one is known under the label from then on. -/
  | reset (label : String)

def perform (rs : Registries ε) : Call ε → Registry.Answer ε × Registries ε
  | .on which call =>
    let (answer, r) := (rs.get which).perform call
    (answer, rs.set which r)
  | .reset label =>
    let (old, rs) := rs.resetDefault
    (.done, rs.set (some label) old)

def performAll : Registries ε → List (Call ε) → List (Registry.Answer ε) × Registries ε
  | rs, [] => ([], rs)
  | rs, call :: calls =>
    let (answer, rs) := rs.perform call
    let (answers, rs) := rs.performAll calls
    (answer :: answers, rs)

end Registries

end Playbook
