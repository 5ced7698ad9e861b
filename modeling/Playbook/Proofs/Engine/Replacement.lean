import Playbook.Proofs.Engine.Attempts
import Playbook.Proofs.Store

/-!
What recording a result does to a run. An attempt may hand over a new window; then the old window is
released, the new one is put in its place, and the session state that the new window holds, if it
holds one, is adopted. Otherwise the result is noted and that is all.
-/

namespace Playbook

variable {κ σ : Type}

/-- The remapper of the session state that the context holds. -/
def Scene.remapper (s : Scene κ σ) : Value := s.store.field s.context.requestResult "remapper"

namespace Engine

/-- The window that an attempt puts in place: its command may replace the window, it succeeded, and
its payload holds one, under either of its names. -/
def newWindow? (e : Engine κ σ) (a : Attempt κ σ) : Option Value :=
  if a.result.success = true ∧ a.command.name ∈ e.config.replacing then
    a.dispatched.scene.store.firstPresent a.result.data ["newWindow", "new_window"]
  else none

/-- The run with the result noted and with the window that is replaced, if one is, released. -/
def freed (e : Engine κ σ) (a : Attempt κ σ) : Run κ σ :=
  match e.newWindow? a with
  | none => a.noted
  | some w => e.releaseReplaced a.dispatched.scene.context.window w a.noted

/-- The session state that an attempt installs: what its new window holds when it is put in place,
under either of its names. -/
def newState? (e : Engine κ σ) (a : Attempt κ σ) : Option Value :=
  (e.newWindow? a).bind fun w =>
    (e.freed a).scene.store.firstPresent w ["request_result", "requestResult"]

section Adoption

variable (new : Value) (r : Run κ σ)

/-- The session state to adopt from a window. -/
theorem sessionState_eq_of_firstPresent {s : Store κ} {new v : Value}
    (h : s.firstPresent new ["request_result", "requestResult"] = some v) :
    s.sessionState new = v ∧ v.isNull = false := by
  rw [← Store.present?_sessionState, Store.present?_eq_some_iff] at h
  exact ⟨h.2, h.2 ▸ h.1⟩

theorem adoptState_of_none
    (h : r.scene.store.firstPresent new ["request_result", "requestResult"] = none) :
    adoptState new r = r := by
  rw [← Store.present?_sessionState, Store.present?_eq_none_iff] at h
  simp [adoptState, h]

/-- Adopting changes the session state of the context and the store, and nothing else of a run. -/
theorem adoptState_eq :
    ∃ s : Store κ, adoptState new r =
      (r.withContext fun c =>
        { c with
          requestResult :=
            (r.scene.store.firstPresent new ["request_result", "requestResult"]).getD
              c.requestResult }).withStore s := by
  cases hstate : r.scene.store.firstPresent new ["request_result", "requestResult"] with
  | none =>
    rw [adoptState_of_none new r hstate]
    exact ⟨r.scene.store, rfl⟩
  | some v =>
    obtain ⟨hv, hpresent⟩ := sessionState_eq_of_firstPresent hstate
    subst hv
    simp only [adoptState, hpresent, Bool.false_eq_true, if_false]
    split
    · split
      · exact ⟨_, rfl⟩
      · exact ⟨r.scene.store, rfl⟩
    · exact ⟨r.scene.store, rfl⟩

theorem context_adoptState :
    (adoptState new r).scene.context =
      { r.scene.context with
        requestResult :=
          (r.scene.store.firstPresent new ["request_result", "requestResult"]).getD
            r.scene.context.requestResult } := by
  obtain ⟨s, hs⟩ := adoptState_eq new r
  rw [hs]
  rfl

theorem trace_adoptState : (adoptState new r).trace = r.trace := by
  obtain ⟨s, hs⟩ := adoptState_eq new r
  rw [hs]
  rfl

/-- A session state that is adopted keeps the remapper it has; one without a remapper takes over
that of the state before it. -/
theorem remapper_adoptState {v : Value}
    (hstate : r.scene.store.firstPresent new ["request_result", "requestResult"] = some v)
    (hsettable : r.scene.store.settable v = true) :
    (adoptState new r).scene.remapper =
      if (r.scene.store.field v "remapper").isNull then r.scene.remapper
      else r.scene.store.field v "remapper" := by
  obtain ⟨hv, hpresent⟩ := sessionState_eq_of_firstPresent hstate
  have hcontext := context_adoptState new r
  rw [hstate, Option.getD_some] at hcontext
  have hholds : (adoptState new r).scene.remapper =
      (adoptState new r).scene.store.field v "remapper" := by
    simp only [Scene.remapper, hcontext]
  rw [hholds]
  subst hv
  simp only [adoptState, hpresent, Bool.false_eq_true, if_false]
  cases hown : (r.scene.store.field (r.scene.store.sessionState new) "remapper").isNull with
  | false => simp
  | true =>
    cases hprevious : r.scene.remapper.isNull with
    | true =>
      -- Neither has a remapper, so nothing is set and both read as null.
      have hleft := Value.isNull_iff.mp hown
      have hright := Value.isNull_iff.mp hprevious
      unfold Scene.remapper at hright
      simp [hleft, hright, Scene.remapper, Value.isNull]
    | false =>
      obtain ⟨s, hset, hread⟩ := Store.setField?_of_settable r.scene.store
        (r.scene.store.sessionState new) "remapper" r.scene.remapper hsettable
      unfold Scene.remapper at hprevious hset
      simp [hprevious, hset, hread]

end Adoption

section Recording

variable {e : Engine κ σ} {a : Attempt κ σ}

theorem carriesWindow_noted (e : Engine κ σ) (a : Attempt κ σ) :
    e.carriesWindow a.command a.result a.noted = (e.newWindow? a).isSome := by
  have hpresent : (e.newWindow? a).isSome = true ↔
      (a.result.success = true ∧ a.command.name ∈ e.config.replacing) ∧
        (a.dispatched.scene.store.newWindow a.result.data).isNull = false := by
    unfold newWindow?
    rw [← Store.present?_newWindow]
    split
    · rename_i hallowed
      simp [hallowed, Store.present?]
    · rename_i hallowed
      simp [hallowed]
  rw [Bool.eq_iff_iff, hpresent]
  simp [carriesWindow, Attempt.noted]

theorem record_of_none (h : e.newWindow? a = none) :
    e.record a.command a.result a.dispatched = a.noted := by
  have hcarries := carriesWindow_noted e a
  rw [h, Option.isSome_none] at hcarries
  unfold record
  exact if_neg (by simpa [Attempt.noted] using hcarries)

theorem record_of_some {w : Value} (h : e.newWindow? a = some w) :
    e.record a.command a.result a.dispatched =
      adoptState w ((e.freed a).withContext fun c => { c with window := w }) := by
  have hcarries := carriesWindow_noted e a
  rw [h, Option.isSome_some] at hcarries
  have hw : a.noted.scene.store.newWindow a.result.data = w := by
    unfold newWindow? at h
    split at h
    · rw [← Store.present?_newWindow, Store.present?_eq_some_iff] at h
      exact h.2
    · cases h
  have hrecord : e.record a.command a.result a.dispatched =
      e.replaceWindow a.result.data a.noted := if_pos hcarries
  rw [hrecord]
  simp only [replaceWindow, hw, freed, h]
  rfl

/-- Releasing the old window changes nothing that no collaborator changes. -/
theorem freed_keeps {α : Type} {f : Scene κ σ → α} (hkeep : e.collaborators.Keeps f)
    (a : Attempt κ σ) : f (e.freed a).scene = f a.noted.scene := by
  unfold freed
  split
  · rfl
  · exact releaseReplaced_keeps hkeep _ _ _

end Recording

/-- All through an attempt no collaborator changes what `f` reads off the scene: not the callback
that is told of it, not the executor, and not the method that releases the window it replaces. -/
structure Leaves {α : Type} (e : Engine κ σ) (a : Attempt κ σ) (f : Scene κ σ → α) : Prop where
  announce : f a.announced.scene = f a.opened.scene
  dispatch : f a.dispatched.scene = f a.announced.scene
  release : f (e.freed a).scene = f a.noted.scene
  report : f a.closed.scene = f a.recorded.scene

/-- What is read further off something left alone is left alone. -/
theorem Leaves.comp {α β : Type} {e : Engine κ σ} {a : Attempt κ σ} {f : Scene κ σ → α}
    (h : e.Leaves a f) (g : α → β) : e.Leaves a fun s => g (f s) where
  announce := congrArg g h.announce
  dispatch := congrArg g h.dispatch
  release := congrArg g h.release
  report := congrArg g h.report

end Engine

end Playbook
