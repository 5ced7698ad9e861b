import Playbook.Proofs.Engine.Likeness
import Playbook.Proofs.Engine.Returns

/-!
Callbacks that only look on. A run that is watched by a callback and the run that is not are
compared step by step. They do the same to everything but what the callback remembers, whether the
callback answers or raises. There is one thing that being watched does change: the time since the
start is told before each command and after it, so that a time which cannot be told ends a watched
run sooner.
-/

namespace Playbook

variable {κ σ τ : Type}

/-- Two scenes differ in nothing but a part of the memory. -/
structure Scene.Agree (look : σ → τ) (s t : Scene κ σ) : Prop where
  clock : t.clock = s.clock
  store : t.store = s.store
  registries : t.registries = s.registries
  context : t.context = s.context
  memory : look t.memory = look s.memory

theorem Scene.Agree.refl (look : σ → τ) (s : Scene κ σ) : Scene.Agree look s s :=
  ⟨rfl, rfl, rfl, rfl, rfl⟩

theorem Scene.Agree.trans {look : σ → τ} {s t u : Scene κ σ} (h : Scene.Agree look s t)
    (h' : Scene.Agree look t u) : Scene.Agree look s u :=
  ⟨h'.clock.trans h.clock, h'.store.trans h.store, h'.registries.trans h.registries,
    h'.context.trans h.context, h'.memory.trans h.memory⟩

namespace Collaborators

/-- Executors and methods go by no more of the memory than what is looked at. -/
structure LooksAt (c : Collaborators κ σ) (look : σ → τ) : Prop where
  execute : ∀ k window command index s t, Scene.Agree look s t →
    (c.execute k window command index t).1 = (c.execute k window command index s).1 ∧
      Scene.Agree look (c.execute k window command index s).2
        (c.execute k window command index t).2
  invoke : ∀ k owner name s t, Scene.Agree look s t →
    Scene.Agree look (c.invoke k owner name [] s).2 (c.invoke k owner name [] t).2

/-- A callback changes nothing but what is not looked at. It may answer or raise each time. -/
def Observes (c : Collaborators κ σ) (look : σ → τ) (callback : κ) : Prop :=
  ∀ p s, Scene.Agree look s (c.notify callback p s).2

end Collaborators

def Event.isProgress : Event → Bool
  | .progress _ => true
  | _ => false

/-- What has been done so far, but for telling a callback: the calls with their arguments. -/
def Run.actions (r : Run κ σ) : List Event := r.trace.filter fun event => !event.isProgress

/-- A watched run has done what a run without a callback has, and their scenes agree. -/
structure Run.Agree (look : σ → τ) (r watched : Run κ σ) : Prop where
  scene : Scene.Agree look r.scene watched.scene
  actions : watched.actions = r.actions

namespace Run.Agree

variable {look : σ → τ} {r q : Run κ σ}

theorem withContext (h : r.Agree look q) (f : Context → Context) :
    (r.withContext f).Agree look (q.withContext f) where
  scene := ⟨h.scene.clock, h.scene.store, h.scene.registries, congrArg f h.scene.context,
    h.scene.memory⟩
  actions := h.actions

theorem withStore (h : r.Agree look q) (s : Store κ) :
    (r.withStore s).Agree look (q.withStore s) where
  scene := ⟨h.scene.clock, rfl, h.scene.registries, h.scene.context, h.scene.memory⟩
  actions := h.actions

/-- An event that both note, and a change of the scene in which they go on to agree. -/
theorem note (h : r.Agree look q) (event : Event) {s t : Scene κ σ}
    (hscene : Scene.Agree look s t) :
    Run.Agree look ⟨s, r.trace ++ [event]⟩ ⟨t, q.trace ++ [event]⟩ where
  scene := hscene
  actions := by
    have hactions := h.actions
    unfold Run.actions at hactions ⊢
    rw [List.filter_append, List.filter_append, hactions]

end Run.Agree

namespace Engine

/-- The engine without a callback. -/
def unwatched (e : Engine κ σ) : Engine κ σ := { e with onProgress := none }

/-- How a watched run stands to the run without a callback: it has come to the same, or it was
broken off and has done a first part of what the other does. -/
inductive Tracks {ε α : Type} (look : σ → τ) :
    Except ε α × Run κ σ → Except ε α × Run κ σ → Prop
  | agree {outcome : Except ε α} {r q : Run κ σ} (h : r.Agree look q) :
      Tracks look (outcome, r) (outcome, q)
  | behind {silent : Except ε α × Run κ σ} {f : ε} {q : Run κ σ}
      (h : q.actions <+: silent.2.actions) : Tracks look silent (.error f, q)

variable {look : σ → τ} {e : Engine κ σ} {start : Value} {total index : Nat} {command : Command}
  {r q : Run κ σ}

section Tracks

variable {ε α : Type} {silent watched : Except ε α × Run κ σ}

theorem Tracks.actions (h : Tracks look silent watched) :
    watched.2.actions <+: silent.2.actions := by
  cases h with
  | agree hend => exact hend.actions ▸ List.prefix_refl _
  | behind hbehind => exact hbehind

/-- A watched run that comes to something was not broken off. -/
theorem Tracks.of_ok (h : Tracks look silent watched) {a : α} (hok : watched.1 = .ok a) :
    silent.1 = .ok a ∧ silent.2.Agree look watched.2 := by
  cases h with
  | agree hend => exact ⟨hok, hend⟩
  | behind => cases hok

end Tracks

/-! ### Runs only grow -/

theorem attempt_extends (e : Engine κ σ) (start : Value) (total index : Nat) (command : Command)
    (r : Run κ σ) : r.trace <+: (e.attempt start total index command r).2.trace := by
  cases hattempt : e.attempt start total index command r with
  | mk outcome after =>
    cases outcome with
    | error f => exact (breaks_of_attempt hattempt).trace_extends
    | ok result =>
      obtain ⟨a, made, _, _, rfl, _, rfl⟩ := makes_of_attempt hattempt
      rw [made.trace_closed]
      exact List.prefix_append _ _

theorem runFrom_extends (e : Engine κ σ) (start : Value) (total index : Nat)
    (commands : List Command) (r : Run κ σ) :
    r.trace <+: (e.runFrom start total index commands r).2.trace :=
  (Goes.trace_extends (goes_attemptsFrom e start total index commands r)).1

theorem actions_prefix (h : r.trace <+: q.trace) : r.actions <+: q.actions :=
  h.filter _

/-! ### Steps -/

section Steps

variable (hlook : e.collaborators.LooksAt look)
  (hobserve : ∀ callback, e.onProgress = some callback →
    e.collaborators.Observes look callback)

include hobserve in
/-- Telling the callback leaves the watched run in agreement, whether the time can be told or
not. -/
theorem emitProgress_agree (h : r.Agree look q) (total index : Nat) (name : String)
    (status : Status) (start : Value) :
    r.Agree look (e.emitProgress total index name status start q).2 := by
  unfold emitProgress
  cases hcallback : e.callback? with
  | none => exact h
  | some callback =>
    cases elapsedSince start q.scene.clock with
    | error f => exact h
    | ok elapsed =>
      have hset : e.onProgress = some callback := (Option.filter_eq_some_iff.mp hcallback).1
      refine ⟨h.scene.trans (hobserve callback hset _ _), ?_⟩
      rw [← h.actions]
      simp [Run.actions, Event.isProgress]

include hobserve in
/-- What comes after telling the callback tracks a run without a callback, if it does so from
wherever the callback leaves the watched run. -/
theorem tell_tracks {α : Type} {silent : Except Clock.Fault α × Run κ σ}
    {next : Run κ σ → Except Clock.Fault α × Run κ σ} (h : r.Agree look q)
    (hextends : r.actions <+: silent.2.actions)
    (hnext : ∀ told, r.Agree look told → Tracks look silent (next told)) (total index : Nat)
    (name : String) (status : Status) (start : Value) :
    Tracks look silent
      (match e.emitProgress total index name status start q with
      | (.error f, q) => (.error f, q)
      | (.ok _, q) => next q) := by
  have htold := emitProgress_agree hobserve h total index name status start
  cases htell : e.emitProgress total index name status start q with
  | mk outcome told =>
    rw [htell] at htold
    cases outcome with
    | ok _ => exact hnext told htold
    | error f =>
      refine .behind ?_
      rw [htold.actions]
      exact hextends

theorem failure_agree {s t : Scene κ σ} (h : Scene.Agree look s t) (name message : String) :
    failure name index message t = failure name index message s := by
  unfold failure
  rw [h.clock, h.store, h.context]

/-- What is recorded of an answer depends on what the scenes agree on. -/
theorem answered_agree {made made' : Except Failure Outcome × Scene κ σ}
    (hanswer : made'.1 = made.1) (h : Scene.Agree look made.2 made'.2) :
    answered command index made' = answered command index made := by
  have hresult : resultOf command made'.2 made.1 = resultOf command made.2 made.1 := by
    simp only [resultOf, h.clock, h.store]
  unfold answered
  rw [hanswer, hresult]
  simp only [failure_agree h]

include hlook in
theorem dispatch_agree (h : r.Agree look q) (command : Command) (index : Nat) :
    (e.dispatch command index q).1 = (e.dispatch command index r).1 ∧
      (e.dispatch command index r).2.Agree look (e.dispatch command index q).2 := by
  cases hexecutor : (r.scene.registries.get e.registry).get? command.name with
  | none =>
    have hother := hexecutor
    rw [← h.scene.registries] at hother
    rw [dispatch_of_none hexecutor, dispatch_of_none hother]
    exact ⟨failure_agree h.scene _ _, h⟩
  | some executor =>
    have hother := hexecutor
    rw [← h.scene.registries] at hother
    rw [dispatch_of_some hexecutor, dispatch_of_some hother, h.scene.context]
    obtain ⟨hanswer, hscene⟩ := hlook.execute executor r.scene.context.window command index
      r.scene q.scene h.scene
    exact ⟨answered_agree hanswer hscene, h.note _ hscene⟩

theorem adoptState_agree (h : r.Agree look q) (w : Value) :
    (adoptState w r).Agree look (adoptState w q) := by
  unfold adoptState
  rw [h.scene.store, h.scene.context]
  dsimp only
  split
  · exact h
  · split
    · split
      · exact (h.withContext _).withStore _
      · exact h.withContext _
    · exact h.withContext _

include hlook in
theorem releaseReplaced_agree (h : r.Agree look q) (old new : Value) :
    (e.releaseReplaced old new r).Agree look (e.releaseReplaced old new q) := by
  unfold releaseReplaced
  split
  · rw [release_eq, release_eq, h.scene.store]
    cases r.scene.store.releaser? old with
    | none => exact h
    | some m => exact h.note m.event (hlook.invoke m.routine m.owner m.name _ _ h.scene)
  · exact h

include hlook in
theorem record_agree (h : r.Agree look q) (command : Command) (result : CommandResult) :
    (e.record command result r).Agree look (e.record command result q) := by
  have hnoted := h.withContext fun c => { c with results := c.results ++ [result] }
  unfold record carriesWindow
  dsimp only
  rw [hnoted.scene.store]
  split
  · unfold replaceWindow
    dsimp only
    rw [hnoted.scene.store, hnoted.scene.context]
    exact adoptState_agree ((releaseReplaced_agree hlook hnoted _ _).withContext _) _
  · exact hnoted

/-- Without a callback an attempt dispatches its command and records the result. -/
theorem attempt_unwatched (e : Engine κ σ) (start : Value) (total index : Nat)
    (command : Command) (r : Run κ σ) :
    e.unwatched.attempt start total index command r =
      match e.dispatch command index r with
      | (.error f, r) => (.error f, r)
      | (.ok result, r) => (.ok result, e.record command result r) := by
  have hdispatch : e.unwatched.dispatch command index r = e.dispatch command index r := rfl
  have hsilent (status : Status) (r : Run κ σ) :
      e.unwatched.emitProgress total index command.name status start r = (.ok (), r) := rfl
  unfold attempt
  simp only [hsilent, hdispatch]
  rfl

include hlook hobserve in
/-- An attempt that is watched tracks the attempt that is not. -/
theorem attempt_tracks (h : r.Agree look q) :
    Tracks look (e.unwatched.attempt start total index command r)
      (e.attempt start total index command q) := by
  have hextends := actions_prefix (e.unwatched.attempt_extends start total index command r)
  rw [attempt_unwatched] at hextends ⊢
  unfold attempt
  refine tell_tracks hobserve h hextends (fun announced hannounced => ?_) total index command.name
    .running start
  obtain ⟨hresult, hdispatched⟩ := dispatch_agree hlook hannounced command index
  cases hsilent : e.dispatch command index r with
  | mk outcome dispatched =>
    cases hwatched : e.dispatch command index announced with
    | mk outcome' dispatched' =>
      rw [hsilent, hwatched] at hresult hdispatched
      obtain rfl : outcome' = outcome := hresult
      cases outcome' with
      | error f => exact .agree hdispatched
      | ok result =>
        have hrecorded := record_agree hlook hdispatched command result
        exact tell_tracks hobserve hrecorded (List.prefix_refl _) (fun _ htold => .agree htold)
          total index command.name _ start

/-! ### Runs -/

include hlook hobserve in
theorem runFrom_tracks {commands : List Command} (h : r.Agree look q) :
    Tracks look (e.unwatched.runFrom start total index commands r)
      (e.runFrom start total index commands q) := by
  induction commands generalizing index r q with
  | nil => exact .agree h
  | cons command rest ih =>
    have hattempt : Tracks look (e.unwatched.attempt start total index command r)
        (e.attempt start total index command q) := attempt_tracks hlook hobserve h
    rw [runFrom_cons, runFrom_cons]
    cases hsilent : e.unwatched.attempt start total index command r with
    | mk outcome closed =>
      cases hwatched : e.attempt start total index command q with
      | mk outcome' closed' =>
        rw [hsilent, hwatched] at hattempt
        cases hattempt with
        | agree hclosed =>
          cases outcome with
          | error f => exact .agree hclosed
          | ok result =>
            have hstops : stopsAfter result closed' = stopsAfter result closed := by
              unfold stopsAfter
              rw [hclosed.scene.store, hclosed.scene.context]
            dsimp only
            rw [hstops]
            split
            · exact .agree hclosed
            · exact ih hclosed
        | behind hbehind =>
          -- The watched run is over; the other one may go on, and only adds to what it has done.
          refine .behind (hbehind.trans ?_)
          cases outcome with
          | error f => exact List.prefix_refl _
          | ok result =>
            dsimp only
            split
            · exact List.prefix_refl _
            · exact actions_prefix (runFrom_extends _ _ _ _ _ _)

theorem account_agree {s t : Scene κ σ} (h : Scene.Agree look s t) (config : Config)
    (start : Value) : account config start t = account config start s := by
  unfold account
  rw [h.clock, h.context]

include hlook hobserve in
/-- A run that is watched tracks the run without a callback. -/
theorem execute_tracks (config : Config) (r : Run κ σ) :
    Tracks look (e.unwatched.execute config r) (e.execute config r) := by
  have hprepared : (prepare config r).Agree look (prepare config r) := ⟨.refl look _, rfl⟩
  have hrun : Tracks look
      (e.unwatched.runFrom (startOf r.scene) config.commands.length 0 config.commands
        (prepare config r))
      (e.runFrom (startOf r.scene) config.commands.length 0 config.commands (prepare config r)) :=
    runFrom_tracks hlook hobserve hprepared
  rw [execute_never, execute_never]
  revert hrun
  generalize e.unwatched.runFrom (startOf r.scene) config.commands.length 0 config.commands
    (prepare config r) = silent
  generalize e.runFrom (startOf r.scene) config.commands.length 0 config.commands
    (prepare config r) = watched
  intro hrun
  cases hrun with
  | @agree outcome closed closed' hclosed =>
    cases outcome with
    | error f => exact .agree hclosed
    | ok _ =>
      dsimp only
      rw [account_agree hclosed.scene]
      exact .agree hclosed
  | behind hbehind =>
    refine .behind ?_
    obtain ⟨outcome, closed⟩ := silent
    cases outcome <;> exact hbehind

end Steps

/-- Callbacks cannot influence a run. If a callback only looks on, whether it answers or raises each
time it is told something, a run does the same with it and without it: it comes to the same account,
after the same calls of executors and methods with the same arguments, and leaves the same context,
objects, registries and clock, and whatever is looked at of the memory. This is so when the start
time is left open or a number, and the times of the watched run are in range at its end. In any case
no more is done with a callback than without. -/
theorem observers_cannot_influence (e : Engine κ σ) (config : Config) (r : Run κ σ)
    (hlook : e.collaborators.LooksAt look)
    (hobserve : ∀ callback, e.onProgress = some callback →
      e.collaborators.Observes look callback)
    {begun : Float} (hstart : startSeconds (startOf r.scene) = .ok begun) :
    let watched := e.execute config r
    let silent := e.unwatched.execute config r
    watched.2.actions <+: silent.2.actions ∧
      (Clock.InRange begun watched.2.scene.clock →
        ∃ result, watched.1 = .ok result ∧ silent.1 = .ok result ∧
          silent.2.Agree look watched.2) := by
  intro watched silent
  have htracks : Tracks look silent watched := execute_tracks hlook hobserve config r
  refine ⟨htracks.actions, fun hclock => ?_⟩
  cases hreturn : watched.1 with
  | error err =>
    obtain ⟨f, _, hfault⟩ := execute_fault hreturn
    exact absurd hfault (not_timeFault hstart hclock)
  | ok result => exact ⟨result, rfl, htracks.of_ok hreturn⟩

/-- Parts whose callbacks count how often they are told something, and raise every second time. -/
def Part.observers : Collaborators Part Nat where
  isAsync _ := false
  execute part _ _ _ s := (part.answer, s)
  notify part _ s :=
    (if s.memory % 2 = 0 then .ok () else part.answer.map fun _ => (),
      { s with memory := s.memory + 1 })
  invoke part _ _ _ s := (part.answer.map fun _ => (), s)

theorem Part.observers_looksAt : Part.observers.LooksAt fun _ => () where
  execute _ _ _ _ _ _ h := ⟨rfl, h⟩
  invoke _ _ _ _ _ h := h

theorem Part.observers_observe (part : Part) : Part.observers.Observes (fun _ => ()) part :=
  fun _ _ => ⟨rfl, rfl, rfl, rfl, rfl⟩

/-- Parts on a stage, before anybody was told anything. -/
def observedRun (start : Value) : Run Part Nat :=
  let staged := Part.stage
    [("navigate", Part.reporting true [("newWindow", .handle (.named "second"))]),
      ("raise", { answer := .error ⟨"RuntimeError", "lost"⟩ })]
    { window := .handle (.named "first"), startTime := start }
    { cells := [(.named "first", ⟨.object, [], [("close", Part.reporting true [])]⟩),
        (.named "second", ⟨.object, [], []⟩)] }
  { scene :=
      { clock := staged.scene.clock, store := staged.scene.store
        registries := staged.scene.registries, context := staged.scene.context, memory := 0 }
    trace := [] }

def observedEngine : Engine Part Nat where
  collaborators := Part.observers
  onProgress := some { answer := .error ⟨"ValueError", "no progress"⟩ }

theorem observed_run_is_the_same :
    let config := Config.ofNames ["navigate", "raise", "navigate"]
    let watched := observedEngine.execute config (observedRun .null)
    let silent := observedEngine.unwatched.execute config (observedRun .null)
    watched.2.scene.memory = 4 ∧ silent.2.scene.memory = 0 ∧ watched.2.actions.length = 3 ∧
      ∃ result, watched.1 = .ok result ∧ silent.1 = .ok result ∧
        silent.2.Agree (fun _ => ()) watched.2 := by
  intro config watched silent
  have hclock : Clock.InRange (startInstant (observedRun .null).scene) watched.2.scene.clock :=
    ⟨Clock.isNumber_of_whole (by decide +kernel), Clock.isNumber_of_whole (by decide +kernel)⟩
  obtain ⟨_, hsame⟩ := observers_cannot_influence observedEngine config (observedRun .null)
    Part.observers_looksAt (fun callback _ => Part.observers_observe callback)
    (startSeconds_startOf (.inl rfl))
  exact ⟨by decide +kernel, by decide +kernel, by decide +kernel, hsame hclock⟩

/-- A start time that is a number, but so far away that the time since then cannot be told in
milliseconds, ends the watched run before its first command. -/
theorem distant_start_counterexample :
    let config := Config.ofNames ["raise"]
    let r := observedRun (.float 1e308)
    (1e308 : Float).isFinite = true ∧ (Part.observers.LooksAt fun _ => ()) ∧
      (∀ callback, Part.observers.Observes (fun _ => ()) callback) ∧
      (observedEngine.execute config r).2.actions.length = 0 ∧
      (observedEngine.unwatched.execute config r).2.actions.length = 1 :=
  ⟨by decide +kernel, Part.observers_looksAt, Part.observers_observe, by decide +kernel,
    by decide +kernel⟩

end Engine

end Playbook
