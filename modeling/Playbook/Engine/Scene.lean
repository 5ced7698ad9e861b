import Playbook.Clock
import Playbook.Context
import Playbook.Failure
import Playbook.Registry

/-!
What a run takes place in, and whom it works with. The scene is everything that code outside the
engine can reach and change: the clock, the objects, the registries, the context of the run and a
memory of its own. Executors, progress callbacks and methods of objects are named by routines; what
a routine does is a function on scenes, and the engine learns only what it gives back.
-/

namespace Playbook

/-- Everything that collaborators of a run can see and change. -/
structure Scene (κ σ : Type) where
  /-- Seconds. -/
  clock : Float
  store : Store κ
  registries : Registries κ
  context : Context
  /-- Whatever the collaborators remember between their calls. -/
  memory : σ

/-- How far a command has come. -/
inductive Status where
  | running
  | success
  | error
  deriving Repr, DecidableEq

def Status.name : Status → String
  | .running => "running"
  | .success => "success"
  | .error => "error"

def Status.choices : List (String × Status) :=
  [Status.running, .success, .error].map fun s => (s.name, s)

/-- A notification around a command. -/
structure Progress where
  total : Int
  current : Int
  command : String
  status : Status
  /-- Milliseconds since the run started. -/
  elapsed : Int
  deriving Repr, DecidableEq

/-- What an executor gives back when it does not fail: a checked result, or any value. -/
inductive Outcome where
  | result (r : CommandResult)
  | value (v : Value)

/-- What the engine does to the outside, in the order in which it does it. -/
inductive Event where
  | progress (p : Progress)
  /-- An executor is called with the active window. -/
  | call (command : String) (index : Nat) (window : Value)
  | method (owner : Handle) (name : String) (arguments : List Value)
  | fetch (url : String) (options : Entries)

/-- What the routines of a run do. A routine that is asynchronous does nothing when it is called
and everything when its answer is awaited. -/
structure Collaborators (κ σ : Type) where
  isAsync : κ → Bool
  execute : κ → Value → Command → Nat → Scene κ σ → Except Failure Outcome × Scene κ σ
  notify : κ → Progress → Scene κ σ → Except Failure Unit × Scene κ σ
  invoke : κ → Handle → String → List Value → Scene κ σ → Except Failure Unit × Scene κ σ

/-- A scene, and what has happened in it so far. -/
structure Run (κ σ : Type) where
  scene : Scene κ σ
  trace : List Event

namespace Run

variable {κ σ : Type}

/-- Notes an event. -/
def note (r : Run κ σ) (e : Event) : Run κ σ := { r with trace := r.trace ++ [e] }

def withContext (r : Run κ σ) (f : Context → Context) : Run κ σ :=
  { r with scene := { r.scene with context := f r.scene.context } }

def withStore (r : Run κ σ) (s : Store κ) : Run κ σ :=
  { r with scene := { r.scene with store := s } }

/-- Calls a method of an object and awaits it. -/
def callMethod (r : Run κ σ) (c : Collaborators κ σ) (routine : κ) (owner : Handle)
    (name : String) (arguments : List Value) : Except Failure Unit × Run κ σ :=
  let r := r.note (.method owner name arguments)
  let (outcome, scene) := c.invoke routine owner name arguments r.scene
  (outcome, { r with scene })

end Run

end Playbook
