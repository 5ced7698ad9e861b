import Playbook.Engine.Scene

/-!
What calls give back. A call may do something at once, and it may leave the rest, or all of it, to a
coroutine, which does nothing until it is awaited. An engine awaits whatever has to be awaited
before it does anything else, and a failure on the way counts the same, be it raised by the call or
by what is awaited. Handing patterns to a cookie jar is the exception: there nothing is awaited.
-/

namespace Playbook

/-- What is done in a scene, and what comes of it. -/
abbrev Action (κ σ α : Type) := Scene κ σ → Except Failure α × Scene κ σ

/-- What a call gives back when it does not fail. -/
inductive Reply (κ σ α : Type) where
  | answer (a : α)
  | coroutine (body : Action κ σ α)

/-- A failure as it leaves a coroutine. The one that ends an iteration cannot: another one is raised
in its place. -/
def Failure.throughCoroutine (f : Failure) : Failure :=
  if f.kind = "StopIteration" then ⟨"RuntimeError", "coroutine raised StopIteration"⟩ else f

namespace Reply

variable {κ σ α : Type}

/-- A reply awaited, if there is something to await. -/
def await : Reply κ σ α → Action κ σ α
  | .answer a, s => (.ok a, s)
  | .coroutine body, s =>
    let (outcome, s) := body s
    (outcome.mapError Failure.throughCoroutine, s)

end Reply

namespace Action

variable {κ σ α : Type}

/-- What a call comes to when its reply is awaited on the spot. -/
def settled (call : Action κ σ (Reply κ σ α)) : Action κ σ α := fun s =>
  match call s with
  | (.error f, s) => (.error f, s)
  | (.ok reply, s) => reply.await s

/-- The call of a function: everything is done at once. -/
def direct (body : Action κ σ α) : Action κ σ (Reply κ σ α) := fun s =>
  let (outcome, s) := body s
  (outcome.map Reply.answer, s)

/-- The call of a coroutine function: nothing is done yet. -/
def deferred (body : Action κ σ α) : Action κ σ (Reply κ σ α) := fun s => (.ok (.coroutine body), s)

/-- The call of a function, or of a coroutine function, with a body. -/
def called (isAsync : Bool) (body : Action κ σ α) : Action κ σ (Reply κ σ α) :=
  if isAsync then deferred body else direct body

end Action

/-- What a method does, and whether it is a coroutine function. -/
structure Method (κ σ : Type) where
  isAsync : Bool
  body : Handle → String → List Value → Action κ σ Unit

def Method.call {κ σ : Type} (m : Method κ σ) (owner : Handle) (name : String)
    (arguments : List Value) : Action κ σ (Reply κ σ Unit) :=
  Action.called m.isAsync (m.body owner name arguments)

/-- How the routines of a run are called. -/
structure Callables (κ σ : Type) where
  executor : κ → Value → Command → Nat → Action κ σ (Reply κ σ Outcome)
  callback : κ → Progress → Action κ σ (Reply κ σ Unit)
  method : κ → Method κ σ

/-- The collaborators of an engine that calls executors, callbacks and methods that release windows,
and awaits each of them on the spot. -/
def Callables.collaborators {κ σ : Type} (c : Callables κ σ) : Collaborators κ σ where
  isAsync k := (c.method k).isAsync
  execute k window command index := Action.settled (c.executor k window command index)
  notify k progress := Action.settled (c.callback k progress)
  invoke k owner name arguments := Action.settled ((c.method k).call owner name arguments)

end Playbook
