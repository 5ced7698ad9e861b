import Playbook.Engine.Reply
import Playbook.Proofs.Operation.Cookies

/-!
Functions and coroutines in each other's place. A coroutine stands for a call when calling it does
nothing and awaiting it does what the call does. An engine awaits on the spot, in each of the three
places where it calls somebody in a run, so that nobody can tell from an operation which of its
executors, callbacks and methods of windows are coroutines.
-/

namespace Playbook

variable {κ σ α : Type}

/-! ### Calls and coroutines -/

namespace Action

/-- A coroutine in the place of a call: calling it does nothing, and whenever it is awaited it does
what the call does, to the same answer or the same failure. -/
def Counterpart (call other : Action κ σ (Reply κ σ α)) : Prop :=
  ∃ body, (∀ s, other s = (.ok (.coroutine body), s)) ∧
    ∀ s, (Reply.coroutine body).await s = call.settled s

theorem Counterpart.settled_eq {call other : Action κ σ (Reply κ σ α)}
    (h : Counterpart call other) : other.settled = call.settled := by
  obtain ⟨body, hcall, hawait⟩ := h
  funext s
  calc
    other.settled s = (Reply.coroutine body).await s := by simp only [settled, hcall]
    _ = call.settled s := hawait s

theorem settled_direct (body : Action κ σ α) : (direct body).settled = body := by
  funext s
  cases hbody : body s with
  | mk outcome after => cases outcome <;> simp [settled, direct, hbody, Except.map, Reply.await]

end Action

/-- A failure that can leave a coroutine leaves it as it is. -/
theorem Failure.throughCoroutine_eq {f : Failure} (h : f.kind ≠ "StopIteration") :
    f.throughCoroutine = f := if_neg h

namespace Action

/-- The coroutine function with the body of a function is its counterpart, if the body never raises
the one failure that cannot leave a coroutine. -/
theorem counterpart_deferred {body : Action κ σ α}
    (h : ∀ s f, (body s).1 = .error f → f.kind ≠ "StopIteration") :
    Counterpart (direct body) (deferred body) := by
  refine ⟨body, fun _ => rfl, fun s => ?_⟩
  rw [settled_direct]
  cases hbody : body s with
  | mk outcome after =>
    cases outcome with
    | ok a => simp only [Reply.await, hbody, Except.mapError]
    | error f =>
      have hkind : f.kind ≠ "StopIteration" := h s f (by rw [hbody])
      simp only [Reply.await, hbody, Except.mapError, Failure.throughCoroutine_eq hkind]

end Action

namespace Callables

/-- Some executors, callbacks and methods are replaced by coroutines that do the same. -/
structure MadeAsync (c c' : Callables κ σ) : Prop where
  executor : ∀ k window command index,
    c'.executor k window command index = c.executor k window command index ∨
      Action.Counterpart (c.executor k window command index)
        (c'.executor k window command index)
  callback : ∀ k progress, c'.callback k progress = c.callback k progress ∨
    Action.Counterpart (c.callback k progress) (c'.callback k progress)
  method : ∀ k owner name arguments,
    (c'.method k).call owner name arguments = (c.method k).call owner name arguments ∨
      Action.Counterpart ((c.method k).call owner name arguments)
        ((c'.method k).call owner name arguments)

variable {c c' : Callables κ σ}

theorem settled_eq_of_or {call other : Action κ σ (Reply κ σ α)}
    (h : other = call ∨ Action.Counterpart call other) : other.settled = call.settled := by
  rcases h with rfl | hcounterpart
  · rfl
  · exact hcounterpart.settled_eq

section

variable (h : c.MadeAsync c')
include h

/-! For an engine they do the same as before, at each of the three places where it awaits. -/

theorem MadeAsync.execute_eq : c'.collaborators.execute = c.collaborators.execute := by
  funext k window command index
  exact settled_eq_of_or (h.executor k window command index)

theorem MadeAsync.notify_eq : c'.collaborators.notify = c.collaborators.notify := by
  funext k progress
  exact settled_eq_of_or (h.callback k progress)

theorem MadeAsync.invoke_eq : c'.collaborators.invoke = c.collaborators.invoke := by
  funext k owner name arguments
  exact settled_eq_of_or (h.method k owner name arguments)

end

end Callables

/-! ### Operations -/

namespace Store

variable {μ : Type} {s : Store μ}

/-- A routine is what some value takes patterns of cookies by. -/
def IsPatternSetter (s : Store μ) (routine : μ) : Prop :=
  ∃ jar name, s.patternSetter? jar = some (name, .method routine)

/-- Where no object has a method under the name of a setter, no routine is one. -/
theorem not_isPatternSetter
    (h : ∀ owned ∈ s.cells, ∀ name ∈ ["set_auto_protect_patterns", "setAutoProtectPatterns"],
      owned.2.methods.lookup name = none) (routine : μ) : ¬ s.IsPatternSetter routine := by
  rintro ⟨jar, name, hfound⟩
  obtain ⟨hname, hattribute⟩ := patternSetter?_eq_some hfound
  obtain ⟨owner, cell, _, hcell, hmethod⟩ := attribute?_eq_method hattribute
  obtain ⟨before, after, hcells, _⟩ := List.lookup_eq_some_iff.mp hcell
  have hnone := h (owner, cell) (by simp [hcells]) name hname
  rw [hmethod] at hnone
  cases hnone

end Store

namespace Engine

variable {e e' : Engine κ σ}

/-- Two engines that differ at most in which methods they take for asynchronous. -/
structure SameButAsync (e e' : Engine κ σ) : Prop extends SameButReleases e e' where
  releases : e'.config.releases = e.config.releases
  invoke : e'.collaborators.invoke = e.collaborators.invoke

namespace SameButAsync

theorem sameButAnswers (h : e.SameButAsync e') : e.SameButAnswers e' where
  toSameButReleases := h.toSameButReleases
  releases := h.releases
  invoke k owner name s := by rw [h.invoke]

theorem callSetter_eq (h : e.SameButAsync e') (jar : Value) (name : String)
    (setter : Store.Member κ) (patterns : Value) (r : Run κ σ)
    (hasync : ∀ k, setter = .method k →
      e'.collaborators.isAsync k = e.collaborators.isAsync k) :
    e'.callSetter jar name setter patterns r = e.callSetter jar name setter patterns r := by
  unfold callSetter
  split
  · rename_i owner routine
    rw [hasync routine rfl]
    unfold Run.callMethod
    rw [h.invoke]
  · rfl
  · rfl

/-- Only the setter of a cookie jar is not awaited, so only there can it be told what is
asynchronous. -/
theorem protectCookies_eq (h : e.SameButAsync e') (config : Config) (r : Run κ σ)
    (hsetter : ∀ k, r.scene.store.IsPatternSetter k →
      e'.collaborators.isAsync k = e.collaborators.isAsync k) :
    e'.protectCookies config r = e.protectCookies config r := by
  unfold protectCookies
  dsimp only
  split
  · rfl
  · cases hfound : r.scene.store.patternSetter?
        (r.scene.store.cookieJar r.scene.context.requestResult) with
    | none => rfl
    | some found =>
      obtain ⟨name, setter⟩ := found
      dsimp only
      rw [h.callSetter_eq]
      rintro k rfl
      exact hsetter k ⟨_, name, hfound⟩

theorem operate_eq (h : e.SameButAsync e') (loader : Loader) (argument : ContextArgument)
    (source : Source) (contexts : List ContextObject) (r : Run κ σ)
    (hsetter : ∀ k, r.scene.store.IsPatternSetter k →
      e'.collaborators.isAsync k = e.collaborators.isAsync k) :
    e'.operate loader argument source contexts r = e.operate loader argument source contexts r := by
  have hrun (config : Config) (context : Context) :
      e'.runInContext config (r.withContext fun _ => context) =
        e.runInContext config (r.withContext fun _ => context) := by
    unfold runInContext
    rw [h.protectCookies_eq config (r.withContext fun _ => context) hsetter]
    simp only [h.sameButAnswers.execute_eq]
  unfold operate
  simp only [hrun]

end SameButAsync

end Engine

open Engine in
/-- Functions and coroutines are interchangeable. However many executors, callbacks and methods are
replaced by coroutines that do the same when they are awaited, a run and an operation come to the
same: the same result or error, the same calls with the same arguments in the same order, and the
same context, objects, clock and registries at the end. Setters of cookie jars are no methods of
windows, and are left as they are. -/
theorem coroutines_are_interchangeable {c c' : Callables κ σ} (h : c.MadeAsync c')
    (e : Engine κ σ) (r : Run κ σ)
    (hsetter : ∀ k, r.scene.store.IsPatternSetter k → c'.method k = c.method k) :
    let before : Engine κ σ := { e with collaborators := c.collaborators }
    let after : Engine κ σ := { e with collaborators := c'.collaborators }
    (∀ config, after.execute config r = before.execute config r) ∧
      ∀ loader argument source contexts,
        after.operate loader argument source contexts r =
          before.operate loader argument source contexts r := by
  intro before after
  have hsame : before.SameButAsync after :=
    ⟨⟨h.execute_eq, h.notify_eq, rfl, rfl, rfl⟩, rfl, h.invoke_eq⟩
  refine ⟨fun config => hsame.sameButAnswers.execute_eq config r, ?_⟩
  intro loader argument source contexts
  refine hsame.operate_eq loader argument source contexts r fun k hk => ?_
  exact congrArg Method.isAsync (hsetter k hk)

/-- Parts called as functions, but for those that are called as coroutine functions. -/
def Part.callables (isAsync : Part → Bool) : Callables Part Unit where
  executor part window command index :=
    Action.called (isAsync part) (Part.collaborators.execute part window command index)
  callback part progress := Action.called (isAsync part) (Part.collaborators.notify part progress)
  method part := ⟨isAsync part, Part.collaborators.invoke part⟩

/-- A part that decides whether failures end the run, and does not raise what no coroutine can. -/
def Part.isDeciding (part : Part) : Bool :=
  part.goOn.isSome &&
    match part.answer with
    | .error f => f.kind != "StopIteration"
    | .ok _ => true

theorem Part.madeAsync_isDeciding :
    (Part.callables fun _ => false).MadeAsync (Part.callables Part.isDeciding) := by
  have hmade {α : Type} (part : Part) (body : Action Part Unit α)
      (hbody : ∀ s f, (body s).1 = .error f → part.answer = .error f) :
      Action.called part.isDeciding body = Action.called false body ∨
        Action.Counterpart (Action.called false body) (Action.called part.isDeciding body) := by
    cases hdeciding : part.isDeciding with
    | false => exact .inl rfl
    | true =>
      refine .inr (Action.counterpart_deferred fun s f hf => ?_)
      simp only [Part.isDeciding, hbody s f hf, Bool.and_eq_true, bne_iff_ne] at hdeciding
      exact hdeciding.2
  -- Callbacks and methods answer nothing, but they raise what the part raises.
  have hraised {part : Part} {f : Failure}
      (h : part.answer.map (fun _ => ()) = Except.error f) : part.answer = .error f := by
    cases hanswer : part.answer with
    | ok _ =>
      rw [hanswer] at h
      cases h
    | error g =>
      rw [hanswer] at h
      exact congrArg _ (Except.error.inj h)
  constructor
  · intro part window command index
    refine hmade part _ fun s f hf => ?_
    simp only [Part.collaborators] at hf
    split at hf <;> exact hf
  · intro part progress
    exact hmade part _ fun _ _ => hraised
  · intro part owner name arguments
    exact hmade part _ fun _ _ => hraised

/-- A run in which one window is opened in place of another one, and then a command raises. All of
it is the doing of coroutines, when parts that decide are called as such. -/
def awaitedRun : Run Part Unit :=
  Part.stage
    [("navigate",
        { Part.reporting true [("newWindow", .handle (.named "second"))] with goOn := some true }),
      ("raise", { goOn := some false, answer := .error ⟨"RuntimeError", "lost"⟩ })]
    {}
    { cells :=
        [(.named "first",
            ⟨.object, [], [("close", { goOn := some true, answer := .error ⟨"OSError", ""⟩ })]⟩),
          (.named "second", ⟨.object, [], []⟩)] }

theorem awaited_run_is_the_same :
    let watched : Engine Part Unit :=
      { Part.engine with
        onProgress := some { goOn := some true, answer := .error ⟨"ValueError", ""⟩ } }
    let functions := { watched with collaborators := (Part.callables fun _ => false).collaborators }
    let coroutines :=
      { watched with collaborators := (Part.callables Part.isDeciding).collaborators }
    let source := Source.value (Config.ofNames ["navigate", "raise", "navigate"]).toRecord
    let context := ContextArgument.value (.ofFields [("window", .handle (.named "first"))])
    let after := coroutines.operate ⟨[], .empty⟩ context source [] awaitedRun
    (∀ k ∈ awaitedRun.scene.registries.default.entries.map Prod.snd, k.isDeciding = true) ∧
      after.outcome.toOption.map (fun account => account.results.map CommandResult.success) =
        some [true, false] ∧
      after.run.methods.length = 1 ∧
      after = functions.operate ⟨[], .empty⟩ context source [] awaitedRun := by
  intro watched functions coroutines source context after
  have hsetter : ∀ k, awaitedRun.scene.store.IsPatternSetter k →
      (Part.callables Part.isDeciding).method k = (Part.callables fun _ => false).method k :=
    fun k hk => absurd hk (Store.not_isPatternSetter (by decide) k)
  obtain ⟨_, hsame⟩ :=
    coroutines_are_interchangeable Part.madeAsync_isDeciding watched awaitedRun hsetter
  exact ⟨by decide, by decide +kernel, by decide +kernel, hsame _ _ _ _⟩

end Playbook
