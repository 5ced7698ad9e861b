import Playbook.Text.Quoted

/-!
Registries of commands: insertion-ordered finite maps from names to whatever runs a command. A
process has one default registry, which can be replaced by an empty one, and any number of others.
-/

namespace Playbook

/-- Names in order of registration, each with its executor. -/
structure Registry (ε : Type) where
  entries : List (String × ε) := []

/-- Why a registration is refused. -/
inductive RegistrationError where
  | emptyName
  | notCallable (name : String)
  deriving Repr, DecidableEq

def RegistrationError.message : RegistrationError → String
  | .emptyName => "Command name cannot be empty"
  | .notCallable name => "Executor for " ++ Text.quoted name ++ " must be callable"

namespace Registry

variable {ε : Type}

def empty : Registry ε := ⟨[]⟩

instance : Inhabited (Registry ε) := ⟨empty⟩

/-- Registered names, in order of registration. -/
def names (r : Registry ε) : List String := r.entries.map Prod.fst

/-- The executor of a name. -/
def get? (r : Registry ε) (name : String) : Option ε := r.entries.lookup name

def contains (r : Registry ε) (name : String) : Bool := r.names.contains name

def size (r : Registry ε) : Nat := r.entries.length

/-- Puts an executor under a name; a name that is present keeps its position. -/
def putEntry (name : String) (executor : ε) : List (String × ε) → List (String × ε)
  | [] => [(name, executor)]
  | (n, e) :: rest =>
    if n = name then (n, executor) :: rest else (n, e) :: putEntry name executor rest

def insert (r : Registry ε) (name : String) (executor : ε) : Registry ε :=
  ⟨putEntry name executor r.entries⟩

/-- Registers a candidate, which must be callable, under a name, which must not be empty. The last
registration of a name wins. -/
def register (r : Registry ε) (name : String) (candidate : Option ε) :
    Except RegistrationError (Registry ε) :=
  if name = "" then .error .emptyName
  else match candidate with
    | none => .error (.notCallable name)
    | some executor => .ok (r.insert name executor)

/-- Removes a name, and tells whether it was there. -/
def unregister (r : Registry ε) (name : String) : Bool × Registry ε :=
  (r.contains name, ⟨r.entries.filter fun e => e.1 ≠ name⟩)

def clear (_ : Registry ε) : Registry ε := empty

end Registry

/-- The default registry of a process, and the others by the name they are known under. -/
structure Registries (ε : Type) where
  default : Registry ε := .empty
  others : List (String × Registry ε) := []

namespace Registries

variable {ε : Type}

instance : Inhabited (Registries ε) := ⟨⟨.empty, []⟩⟩

/-- A registry of its own, or the default one when none is named. A name that was never used
stands for an empty registry. -/
def get (rs : Registries ε) : Option String → Registry ε
  | none => rs.default
  | some name => (rs.others.lookup name).getD .empty

/-- Puts a registry in place of the one with the same name. -/
def putOther (name : String) (r : Registry ε) :
    List (String × Registry ε) → List (String × Registry ε)
  | [] => [(name, r)]
  | (n, old) :: rest => if n = name then (n, r) :: rest else (n, old) :: putOther name r rest

def set (rs : Registries ε) (which : Option String) (r : Registry ε) : Registries ε :=
  match which with
  | none => { rs with default := r }
  | some name => { rs with others := putOther name r rs.others }

/-- Replaces the default registry by an empty one; the old one is handed out unchanged. -/
def resetDefault (rs : Registries ε) : Registry ε × Registries ε :=
  (rs.default, { rs with default := .empty })

end Registries

end Playbook
