import Playbook.Engine.Run

/-!
What a run leaves alone. The engine itself touches little of a scene: it records results, puts new
windows in place and hands session states on. All else that changes is the doing of its
collaborators, so whatever no collaborator changes is the same after announcing, dispatching and
releasing as it was before.
-/

namespace Playbook

variable {κ σ : Type}

namespace Run

@[simp] theorem scene_note (r : Run κ σ) (e : Event) : (r.note e).scene = r.scene := rfl

@[simp] theorem trace_note (r : Run κ σ) (e : Event) : (r.note e).trace = r.trace ++ [e] := rfl

@[simp] theorem store_withContext (r : Run κ σ) (f : Context → Context) :
    (r.withContext f).scene.store = r.scene.store := rfl

@[simp] theorem store_withStore (r : Run κ σ) (s : Store κ) :
    (r.withStore s).scene.store = s := rfl

@[simp] theorem trace_callMethod (r : Run κ σ) (c : Collaborators κ σ) (routine : κ)
    (owner : Handle) (name : String) (arguments : List Value) :
    (r.callMethod c routine owner name arguments).2.trace =
      r.trace ++ [.method owner name arguments] := rfl

end Run

/-- No collaborator changes what `f` reads off a scene, whatever it is called with. -/
structure Collaborators.Keeps {α : Type} (c : Collaborators κ σ) (f : Scene κ σ → α) : Prop where
  execute : ∀ k window command index s, f (c.execute k window command index s).2 = f s
  notify : ∀ k progress s, f (c.notify k progress s).2 = f s
  invoke : ∀ k owner name arguments s, f (c.invoke k owner name arguments s).2 = f s

/-- What is read further off something kept is kept. -/
theorem Collaborators.Keeps.comp {α β : Type} {c : Collaborators κ σ} {f : Scene κ σ → α}
    (hkeep : c.Keeps f) (g : α → β) : c.Keeps fun s => g (f s) where
  execute k window command index s := congrArg g (hkeep.execute k window command index s)
  notify k progress s := congrArg g (hkeep.notify k progress s)
  invoke k owner name arguments s := congrArg g (hkeep.invoke k owner name arguments s)

namespace Engine

variable {α : Type} {e : Engine κ σ} {f : Scene κ σ → α}

theorem emitProgress_keeps (hkeep : e.collaborators.Keeps f) (total index : Nat)
    (command : String) (status : Status) (start : Value) (r : Run κ σ) :
    f (e.emitProgress total index command status start r).2.scene = f r.scene := by
  unfold emitProgress
  cases e.callback? with
  | none => rfl
  | some callback =>
    cases elapsedSince start r.scene.clock with
    | error fault => rfl
    | ok elapsed => exact hkeep.notify callback _ r.scene

theorem dispatch_keeps (hkeep : e.collaborators.Keeps f) (command : Command) (index : Nat)
    (r : Run κ σ) : f (e.dispatch command index r).2.scene = f r.scene := by
  unfold dispatch
  cases (r.scene.registries.get e.registry).get? command.name with
  | none => rfl
  | some executor =>
    have hcall := hkeep.execute executor r.scene.context.window command index r.scene
    simp only [Run.scene_note]
    split <;> exact hcall

/-- Releasing a window comes down to one call of a method, if to anything at all. -/
theorem release_cases (e : Engine κ σ) (window : Value) (r : Run κ σ) :
    e.release window r = r ∨ ∃ routine owner name,
      e.release window r = (r.callMethod e.collaborators routine owner name []).2 := by
  unfold release
  dsimp only
  split
  · split
    · exact .inr ⟨_, _, "abort", rfl⟩
    · exact .inl rfl
  · split
    · split
      · exact .inr ⟨_, _, "close", rfl⟩
      · exact .inl rfl
    · exact .inl rfl

theorem releaseReplaced_cases (e : Engine κ σ) (old new : Value) (r : Run κ σ) :
    e.releaseReplaced old new r = r ∨ ∃ routine owner name,
      e.releaseReplaced old new r = (r.callMethod e.collaborators routine owner name []).2 := by
  unfold releaseReplaced
  split
  · exact release_cases e old r
  · exact .inl rfl

theorem releaseReplaced_keeps (hkeep : e.collaborators.Keeps f) (old new : Value)
    (r : Run κ σ) : f (e.releaseReplaced old new r).scene = f r.scene := by
  rcases releaseReplaced_cases e old new r with hnone | ⟨routine, owner, name, hcall⟩
  · rw [hnone]
  · rw [hcall]
    exact hkeep.invoke routine owner name [] r.scene

end Engine

/-- A part to play: an executor may decide whether failures end the run, and whoever plays it
answers as it is told, or raises. -/
structure Part where
  goOn : Option Bool := none
  answer : Except Failure Outcome

/-- Collaborators that play their parts and have no other effect on a scene. -/
def Part.collaborators : Collaborators Part Unit where
  isAsync _ := false
  execute part _ _ _ s :=
    match part.goOn with
    | none => (part.answer, s)
    | some b => (part.answer, { s with context := { s.context with continueOnError := .bool b } })
  notify part _ s := (part.answer.map fun _ => (), s)
  invoke part _ _ _ s := (part.answer.map fun _ => (), s)

theorem Part.collaborators_keeps {α : Type} {f : Scene Part Unit → α}
    (hflag : ∀ s v, f { s with context := { s.context with continueOnError := v } } = f s) :
    Part.collaborators.Keeps f where
  execute part window command index s := by
    simp only [Part.collaborators]
    split
    · rfl
    · exact hflag s _
  notify _ _ _ := rfl
  invoke _ _ _ _ _ := rfl

/-- A part that succeeds with a payload, or fails with it. -/
def Part.reporting (success : Bool) (payload : List (String × Value)) : Part :=
  { answer := .ok (.result ⟨"", 0, success, 0, none, .ofFields payload⟩) }

/-- The engine of a company that plays parts. -/
def Part.engine : Engine Part Unit := { collaborators := Part.collaborators }

/-- A run that opens with some parts cast under the names of commands. -/
def Part.stage (parts : List (String × Part)) (context : Context) (store : Store Part) :
    Run Part Unit :=
  { scene := { clock := 1000.0, store, registries := ⟨⟨parts⟩, []⟩, context, memory := () }
    trace := [] }

/-- A configuration of commands that are only named. -/
def Config.ofNames (names : List String) : Config :=
  { version := "1", name := .absent, description := .absent, settings := .absent
    commands := names.map fun name => { name, description := .absent, others := [] } }

end Playbook
