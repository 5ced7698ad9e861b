import Playbook.Proofs.Engine.Replacement

/-!
The window and the session state of a run. Both are handed from one attempt to the next, and only a
command that may replace the window, has succeeded and shows a new window gives them new values.
What an executor is called with is therefore the window that was put in place last, however long
ago, and never one that was replaced since.
-/

namespace Playbook

variable {κ σ : Type}

/-- An executor as it was called. -/
structure Call where
  command : String
  index : Nat
  window : Value

def Event.call? : Event → Option Call
  | .call command index window => some ⟨command, index, window⟩
  | _ => none

namespace Run

/-- The calls of executors so far. -/
def calls (r : Run κ σ) : List Call := r.trace.filterMap Event.call?

/-- What a run holds at a moment. -/
structure Holds (r : Run κ σ) (window session : Value) : Prop where
  window : r.scene.context.window = window
  session : r.scene.context.requestResult = session

theorem Holds.of_eq {r r' : Run κ σ} {window session : Value} (h : r.Holds window session)
    (heq : (r'.scene.context.window, r'.scene.context.requestResult) =
      (r.scene.context.window, r.scene.context.requestResult)) : r'.Holds window session where
  window := (congrArg Prod.fst heq).trans h.window
  session := (congrArg Prod.snd heq).trans h.session

theorem calls_note_call (r : Run κ σ) (command : String) (index : Nat) (window : Value) :
    (r.note (.call command index window)).calls = r.calls ++ [⟨command, index, window⟩] := by
  simp [calls, Event.call?]

theorem calls_note_progress (r : Run κ σ) (p : Progress) :
    (r.note (.progress p)).calls = r.calls := by
  simp [calls, Event.call?]

theorem calls_callMethod (r : Run κ σ) (c : Collaborators κ σ) (routine : κ) (owner : Handle)
    (name : String) (arguments : List Value) :
    (r.callMethod c routine owner name arguments).2.calls = r.calls := by
  simp [calls, Event.call?]

end Run

namespace Engine

/-- The window after a row of attempts: the one put in place last, or else the first one. -/
def windowAfter (e : Engine κ σ) (first : Value) (row : List (Attempt κ σ)) : Value :=
  Attempt.latest e.newWindow? first row

/-- The session state after a row of attempts: the one installed last, or else the first one. -/
def sessionAfter (e : Engine κ σ) (first : Value) (row : List (Attempt κ σ)) : Value :=
  Attempt.latest e.newState? first row

/-- A row of attempts that hands window and session state on. -/
structure Threads (e : Engine κ σ) (commands : List Command) (window session : Value)
    (row : List (Attempt κ σ)) : Prop where
  place : ∀ before a after, row = before ++ a :: after →
    a.index = before.length ∧ commands[a.index]? = some a.command
  /-- Until its result is recorded, an attempt has what the attempts before it have left. -/
  received : ∀ before a after, row = before ++ a :: after →
    ∀ r ∈ [a.opened, a.announced, a.dispatched],
      r.Holds (e.windowAfter window before) (e.sessionAfter session before)
  /-- From then on it has what it leaves to the attempts after it. -/
  left : ∀ before a after, row = before ++ a :: after →
    ∀ r ∈ [a.recorded, a.closed],
      r.Holds (e.windowAfter window (before ++ [a])) (e.sessionAfter session (before ++ [a]))

/-- The calls that a run has to make of its commands from a position on, if it makes them: each with
the window after the attempts before it. -/
def callsDue (e : Engine κ σ) (index : Nat) (commands : List Command) (window : Value)
    (row : List (Attempt κ σ)) : List Call :=
  commands.mapIdx fun k command => ⟨command.name, index + k, e.windowAfter window (row.take k)⟩

section Attempts

variable {e : Engine κ σ} {start : Value} {total : Nat} {a : Attempt κ σ}

theorem window_record (e : Engine κ σ) (a : Attempt κ σ) :
    (e.record a.command a.result a.dispatched).scene.context.window =
      (e.newWindow? a).getD a.dispatched.scene.context.window := by
  cases hwindow : e.newWindow? a with
  | none =>
    rw [record_of_none hwindow]
    rfl
  | some w =>
    rw [record_of_some hwindow, context_adoptState]
    rfl

theorem session_record
    (hfreed : (e.freed a).scene.context.requestResult = a.noted.scene.context.requestResult) :
    (e.record a.command a.result a.dispatched).scene.context.requestResult =
      (e.newState? a).getD a.dispatched.scene.context.requestResult := by
  have hnoted : a.noted.scene.context.requestResult = a.dispatched.scene.context.requestResult :=
    rfl
  rw [hnoted] at hfreed
  cases hwindow : e.newWindow? a with
  | none =>
    rw [record_of_none hwindow, newState?, hwindow]
    rfl
  | some w =>
    rw [record_of_some hwindow, context_adoptState, newState?, hwindow, Option.bind_some, ← hfreed]
    rfl

theorem Makes.window_recorded (made : e.Makes start total a)
    (hkeep : e.collaborators.Keeps fun s => s.context.window) :
    a.recorded.scene.context.window = (e.newWindow? a).getD a.opened.scene.context.window := by
  rw [← made.record, window_record, made.dispatched_keeps hkeep]

theorem Makes.session_recorded (made : e.Makes start total a)
    (hkeep : e.collaborators.Keeps fun s => s.context.requestResult) :
    a.recorded.scene.context.requestResult =
      (e.newState? a).getD a.opened.scene.context.requestResult := by
  rw [← made.record, session_record (freed_keeps hkeep a), made.dispatched_keeps hkeep]

end Attempts

section Calls

variable {e : Engine κ σ}

theorem calls_emitProgress (e : Engine κ σ) (total index : Nat) (command : String)
    (status : Status) (start : Value) (r : Run κ σ) :
    (e.emitProgress total index command status start r).2.calls = r.calls := by
  unfold emitProgress
  cases e.callback? with
  | none => rfl
  | some callback =>
    cases elapsedSince start r.scene.clock with
    | error fault => rfl
    | ok elapsed => exact r.calls_note_progress _

/-- Dispatching a command calls its executor once, with the active window, or nobody. -/
theorem calls_dispatch (e : Engine κ σ) (command : Command) (index : Nat) (r : Run κ σ) :
    ∃ calls, (e.dispatch command index r).2.calls = r.calls ++ calls ∧
      calls.Sublist [⟨command.name, index, r.scene.context.window⟩] := by
  unfold dispatch
  cases (r.scene.registries.get e.registry).get? command.name with
  | none => exact ⟨[], by simp, by simp⟩
  | some executor =>
    refine ⟨[⟨command.name, index, r.scene.context.window⟩], ?_, .refl _⟩
    rw [← r.calls_note_call]
    dsimp only
    split <;> rfl

theorem calls_adoptState (new : Value) (r : Run κ σ) : (adoptState new r).calls = r.calls := by
  unfold Run.calls
  rw [trace_adoptState]

theorem calls_releaseReplaced (e : Engine κ σ) (old new : Value) (r : Run κ σ) :
    (e.releaseReplaced old new r).calls = r.calls := by
  rcases releaseReplaced_cases e old new r with hnone | ⟨routine, owner, name, hcall⟩
  · rw [hnone]
  · rw [hcall, Run.calls_callMethod]

theorem calls_record (e : Engine κ σ) (command : Command) (result : CommandResult)
    (r : Run κ σ) : (e.record command result r).calls = r.calls := by
  unfold record
  dsimp only
  split
  · unfold replaceWindow
    rw [calls_adoptState]
    exact calls_releaseReplaced e _ _ _
  · rfl

/-- Whatever an attempt comes to, it calls at most the executor of its command, with the window
that it was opened with. -/
theorem calls_attempt (hkeep : e.collaborators.Keeps fun s => s.context.window) (start : Value)
    (total index : Nat) (command : Command) (r : Run κ σ) :
    ∃ calls, (e.attempt start total index command r).2.calls = r.calls ++ calls ∧
      calls.Sublist [⟨command.name, index, r.scene.context.window⟩] := by
  have hannounce := calls_emitProgress e total index command.name .running start r
  have hwindow := emitProgress_keeps hkeep total index command.name .running start r
  unfold attempt
  split
  · rename_i announced hfault
    rw [hfault] at hannounce
    exact ⟨[], by simpa using hannounce, by simp⟩
  · rename_i announced hannounced
    rw [hannounced] at hannounce hwindow
    obtain ⟨calls, hdispatch, hcalls⟩ := calls_dispatch e command index announced
    dsimp only at hannounce hwindow
    rw [hannounce] at hdispatch
    rw [hwindow] at hcalls
    refine ⟨calls, ?_, hcalls⟩
    split
    · rename_i dispatched hfault
      rw [hfault] at hdispatch
      exact hdispatch
    · rename_i result dispatched hdispatched
      rw [hdispatched] at hdispatch
      have hreport := calls_emitProgress e total index command.name
        (if result.success then .success else .error) start (e.record command result dispatched)
      rw [calls_record] at hreport
      rw [← hdispatch, ← hreport]
      dsimp only
      split
      · rename_i hclosed
        rw [hclosed]
      · rename_i hclosed
        rw [hclosed]

theorem callsDue_cons (e : Engine κ σ) (index : Nat) (command : Command) (rest : List Command)
    (window : Value) (row : List (Attempt κ σ)) :
    e.callsDue index (command :: rest) window row =
      ⟨command.name, index, window⟩ ::
        e.callsDue (index + 1) rest (e.windowAfter window (row.take 1)) row.tail := by
  unfold callsDue
  rw [List.mapIdx_cons]
  congr 1
  refine congrArg (fun f => rest.mapIdx f) ?_
  funext k command
  have hindex : index + (k + 1) = index + 1 + k := by omega
  cases row with
  | nil => simp [windowAfter, hindex]
  | cons a later => simp [windowAfter, Attempt.latest_cons, hindex]

/-- Through any run, executors are called with the window after the attempts before them, whether or
not the run comes to its end. -/
theorem Goes.calls {start : Value} {total index : Nat} {commands : List Command}
    {r r' : Run κ σ} {row : List (Attempt κ σ)} {outcome : Except Escape Unit}
    (h : e.Goes start total index commands r row outcome r')
    (hkeep : e.collaborators.Keeps fun s => s.context.window) :
    ∃ calls, r'.calls = r.calls ++ calls ∧
      calls.Sublist (e.callsDue index commands r.scene.context.window row) := by
  induction h with
  | through => exact ⟨[], by simp, List.nil_sublist _⟩
  | @fault index command rest r r' f failed =>
    obtain ⟨calls, hnew, hcalls⟩ := calls_attempt hkeep start total index command r
    rw [failed] at hnew
    refine ⟨calls, hnew, hcalls.trans ?_⟩
    rw [callsDue_cons]
    exact (List.nil_sublist _).cons_cons _
  | @halt a rest made _ =>
    obtain ⟨calls, hnew, hcalls⟩ := calls_attempt hkeep start total a.index a.command a.opened
    rw [made.attempt_eq] at hnew
    refine ⟨calls, hnew, hcalls.trans ?_⟩
    rw [callsDue_cons]
    exact (List.nil_sublist _).cons_cons _
  | @next a rest later outcome r' made _ _ ih =>
    obtain ⟨first, hfirst, hcall⟩ := calls_attempt hkeep start total a.index a.command a.opened
    obtain ⟨calls, hnew, hcalls⟩ := ih
    rw [made.attempt_eq] at hfirst
    have hwindow : a.closed.scene.context.window =
        e.windowAfter a.opened.scene.context.window [a] := by
      rw [made.closed_keeps hkeep, made.window_recorded hkeep, windowAfter, Attempt.latest_cons,
        Attempt.latest_nil]
    refine ⟨first ++ calls, ?_, ?_⟩
    · rw [hnew, hfirst, List.append_assoc]
    · rw [hwindow] at hcalls
      rw [callsDue_cons]
      exact hcall.append hcalls

end Calls

variable {e : Engine κ σ} {config : Config} {r : Run κ σ}

/-- Window and session state are handed on as they were left. -/
theorem Plays.threads {row : List (Attempt κ σ)} {outcome : Except Escape Unit}
    {r' : Run κ σ} (h : e.Plays config r row outcome r')
    (hkeep : e.collaborators.Keeps fun s => (s.context.window, s.context.requestResult)) :
    e.Threads config.commands r.scene.context.window r.scene.context.requestResult row ∧
      (outcome = .ok () →
        r'.Holds (e.windowAfter r.scene.context.window row)
          (e.sessionAfter r.scene.context.requestResult row)) := by
  have hkeepWindow : e.collaborators.Keeps fun s => s.context.window := hkeep.comp Prod.fst
  have hkeepSession : e.collaborators.Keeps fun s => s.context.requestResult := hkeep.comp Prod.snd
  obtain ⟨hwindow, hlastWindow⟩ := Goes.latest (fun r => r.scene.context.window) e.newWindow? h
    fun a _ made => (made.closed_keeps hkeepWindow).trans (made.window_recorded hkeepWindow)
  obtain ⟨hsession, hlastSession⟩ := Goes.latest (fun r => r.scene.context.requestResult)
    e.newState? h
    fun a _ made => (made.closed_keeps hkeepSession).trans (made.session_recorded hkeepSession)
  -- Filling the open fields of the context leaves both as they are.
  have hopened : ∀ before a after, row = before ++ a :: after →
      a.opened.Holds (e.windowAfter r.scene.context.window before)
        (e.sessionAfter r.scene.context.requestResult before) :=
    fun before a after hrow => ⟨hwindow before a after hrow, hsession before a after hrow⟩
  refine ⟨⟨?_, ?_, ?_⟩, fun hok => ⟨hlastWindow hok, hlastSession hok⟩⟩
  · intro before a after hrow
    have hindex : a.index = before.length := by rw [Goes.index_eq h hrow, Nat.zero_add]
    refine ⟨hindex, ?_⟩
    rw [hindex]
    exact Goes.command_eq h hrow
  · intro before a after hrow
    have made := Goes.made h a (by simp [hrow])
    have hfirst := hopened before a after hrow
    have hannounced := hfirst.of_eq (made.announced_keeps hkeep)
    have hdispatched := hfirst.of_eq (made.dispatched_keeps hkeep)
    simp [hfirst, hannounced, hdispatched]
  · intro before a after hrow
    have made := Goes.made h a (by simp [hrow])
    have hfirst := hopened before a after hrow
    have hrecorded : a.recorded.Holds (e.windowAfter r.scene.context.window (before ++ [a]))
        (e.sessionAfter r.scene.context.requestResult (before ++ [a])) := by
      constructor
      · rw [made.window_recorded hkeepWindow, hfirst.window, windowAfter, windowAfter,
          Attempt.latest_append, Attempt.latest_cons, Attempt.latest_nil]
      · rw [made.session_recorded hkeepSession, hfirst.session, sessionAfter, sessionAfter,
          Attempt.latest_append, Attempt.latest_cons, Attempt.latest_nil]
    have hclosed := hrecorded.of_eq (made.closed_keeps hkeep)
    simp [hrecorded, hclosed]

/-- The window and the session state through a run, if nobody but the engine assigns them. An
executor is called with the new window of the last attempt before it that replaced the window, or
with the first window, and finds it in the context. The session state is the one that the window put
in place last had when it was put in place, or the last window before it that had one, or the first
session state. Failed attempts, commands that may not replace the window and payloads that show
nothing under either name change neither. Callbacks and methods of windows are not handed the
context, so that in practice only executors are asked to leave both alone. -/
theorem run_threads_window_and_session (config : Config) (r : Run κ σ)
    (hkeep : e.collaborators.Keeps fun s => (s.context.window, s.context.requestResult)) :
    let row := e.attempts config r
    let last := (e.execute config r).2
    let window := r.scene.context.window
    let session := r.scene.context.requestResult
    (∃ outcome, e.Plays config r row outcome last) ∧
      e.Threads config.commands window session row ∧
      (∃ calls, last.calls = r.calls ++ calls ∧
        calls.Sublist (e.callsDue 0 config.commands window row)) ∧
      ∀ result, (e.execute config r).1 = .ok result →
        last.Holds (e.windowAfter window row) (e.sessionAfter session row) := by
  intro row last window session
  obtain ⟨outcome, hplays, _⟩ := plays_attempts e config r
  refine ⟨⟨outcome, hplays⟩, (hplays.threads hkeep).1, ?_, ?_⟩
  · obtain ⟨calls, hnew, hcalls⟩ := Goes.calls hplays (hkeep.comp Prod.fst)
    exact ⟨calls, hnew, hcalls⟩
  · intro result hreturn
    obtain ⟨hends, _⟩ := plays_of_execute_eq_ok hreturn
    exact (hends.threads hkeep).2 rfl

/-- A new window with a session state, windows that do not count, and a new window under the other
name that has no session state. -/
def movingRun : Run Part Unit :=
  Part.stage
    [("click",
        .reporting true
          [("newWindow", .ofFields [("request_result", .null), ("requestResult", .text "session")]),
            ("new_window", .text "never")]),
      ("look", .reporting true [("newWindow", .text "never")]),
      ("submit", .reporting false [("newWindow", .text "never")]),
      ("navigate", .reporting true [("newWindow", .null), ("new_window", .text "blank")])]
    { window := .text "home", continueOnError := .bool true }
    .empty

def movingConfig : Config := .ofNames ["click", "look", "submit", "navigate", "look"]

theorem moving_run_threads_window_and_session :
    let row := Part.engine.attempts movingConfig movingRun
    let opened : Value := .ofFields [("request_result", .null), ("requestResult", .text "session")]
    Part.engine.Threads movingConfig.commands (.text "home") .null row ∧
      row.map (fun a => a.announced.scene.context.window) =
        [.text "home", opened, opened, opened, .text "blank"] ∧
      (Part.engine.execute movingConfig movingRun).2.Holds (.text "blank") (.text "session") := by
  have hkeep : Part.engine.collaborators.Keeps
      fun s => (s.context.window, s.context.requestResult) :=
    Part.collaborators_keeps fun _ _ => rfl
  obtain ⟨result, hreturn⟩ :
      ∃ result, (Part.engine.execute movingConfig movingRun).1 = .ok result := ⟨_, rfl⟩
  obtain ⟨_, hthreads, _, hends⟩ :=
    run_threads_window_and_session movingConfig movingRun hkeep
  exact ⟨hthreads, rfl, hends result hreturn⟩

end Engine

end Playbook
