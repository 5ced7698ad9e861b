import Playbook.Proofs.Engine.Replacement

/-!
The events of a run. An engine adds events behind those that were there and takes none away. What a
completed attempt adds can be read off it: the announcement, the call of its executor, the release
of the window that it replaces, and the report. An attempt that is broken off has added a first part
of that.
-/

namespace Playbook

variable {κ σ : Type}

/-- A method that releases a window: its object, its name and what it runs. -/
structure Release (κ : Type) where
  owner : Handle
  name : String
  routine : κ

def Release.event (m : Release κ) : Event := .method m.owner m.name []

namespace Store

variable {μ : Type}

/-- The entry of a window to abort: the one called happyDOM, unless that counts as nothing. -/
def abortEntry (s : Store μ) (window : Value) : Value :=
  if s.isTruthy (s.field window "happyDOM") then s.field window "happyDOM"
  else s.field window "happy_dom"

/-- A member as a method that can be called on its owner. -/
def callable? (owner : Value) (name : String) : Member μ → Option (Release μ)
  | .plain _ => none
  | .method routine =>
    match owner with
    | .handle h => some ⟨h, name, routine⟩
    | _ => none

/-- The method that releases a window: `abort` of its entry where the entry shows something under
that name, and `close` of the window itself where it does not. -/
def releaser? (s : Store μ) (window : Value) : Option (Release μ) :=
  match s.presentAttribute? (s.abortEntry window) "abort" with
  | some m => callable? (s.abortEntry window) "abort" m
  | none => (s.presentAttribute? window "close").bind (callable? window "close")

end Store

namespace Engine

/-- Calls a method that releases a window, if there is one. -/
def callRelease (e : Engine κ σ) (m : Option (Release κ)) (r : Run κ σ) : Run κ σ :=
  match m with
  | none => r
  | some m => (r.callMethod e.collaborators m.routine m.owner m.name []).2

/-- The window that an attempt replaces and that is not to stay: the active one, unless there is
none, or it is put in place again, or windows are not released at all. -/
def released? (e : Engine κ σ) (a : Attempt κ σ) : Option Value :=
  let old := a.dispatched.scene.context.window
  (e.newWindow? a).bind fun w =>
    if e.config.releases && !old.isNull && !old.isSameObject w then some old else none

/-- The method that an attempt calls to release the window that it replaces. -/
def releaser? (e : Engine κ σ) (a : Attempt κ σ) : Option (Release κ) :=
  (e.released? a).bind a.dispatched.scene.store.releaser?

/-- What the callback is told, if there is one and the time can be told. -/
def notice? (e : Engine κ σ) (total index : Nat) (command : String) (status : Status)
    (start : Value) (r : Run κ σ) : Option Progress :=
  e.callback?.bind fun _ =>
    (elapsedSince start r.scene.clock).toOption.map fun elapsed =>
      { total, current := index, command, status, elapsed }

/-- The call of the executor of a command, if it has one. -/
def call? (e : Engine κ σ) (command : Command) (index : Nat) (r : Run κ σ) : Option Event :=
  ((r.scene.registries.get e.registry).get? command.name).map fun _ =>
    .call command.name index r.scene.context.window

/-- The events of a completed attempt. -/
def events (e : Engine κ σ) (start : Value) (total : Nat) (a : Attempt κ σ) : List Event :=
  ((e.notice? total a.index a.command.name .running start a.opened).map .progress).toList ++
    (e.call? a.command a.index a.announced).toList ++
    ((e.releaser? a).map Release.event).toList ++
    ((e.notice? total a.index a.command.name a.status start a.recorded).map .progress).toList

/-- An attempt that is made up to its report. -/
structure Reaches (e : Engine κ σ) (start : Value) (total : Nat) (a : Attempt κ σ) : Prop where
  announce : e.emitProgress total a.index a.command.name .running start a.opened =
    (.ok (), a.announced)
  dispatch : e.dispatch a.command a.index a.announced = (.ok a.result, a.dispatched)
  record : e.record a.command a.result a.dispatched = a.recorded

/-- How an attempt is broken off, and where that leaves the run. -/
inductive Breaks (e : Engine κ σ) (start : Value) (total index : Nat) (command : Command)
    (r : Run κ σ) (f : Clock.Fault) : Run κ σ → Prop
  | announce
      (failed : e.emitProgress total index command.name .running start r = (.error f, r)) :
      Breaks e start total index command r f r
  | dispatch {announced r' : Run κ σ}
      (announce : e.emitProgress total index command.name .running start r = (.ok (), announced))
      (failed : e.dispatch command index announced = (.error f, r')) :
      Breaks e start total index command r f r'
  | report {a : Attempt κ σ} (reached : e.Reaches start total a) (hindex : a.index = index)
      (hcommand : a.command = command) (hopened : a.opened = r)
      (failed : e.emitProgress total index command.name a.status start a.recorded =
        (.error f, a.recorded)) :
      Breaks e start total index command r f a.recorded

variable {e : Engine κ σ} {start : Value} {total index : Nat} {command : Command}
  {r r' : Run κ σ} {a : Attempt κ σ} {f : Clock.Fault}

theorem Makes.reaches (made : e.Makes start total a) : e.Reaches start total a :=
  ⟨made.announce, made.dispatch, made.record⟩

theorem Reaches.dispatched_keeps {α : Type} {f : Scene κ σ → α}
    (reached : e.Reaches start total a) (hkeep : e.collaborators.Keeps f) :
    f a.dispatched.scene = f a.opened.scene := by
  have hannounced := emitProgress_keeps hkeep total a.index a.command.name .running start a.opened
  have hdispatched := dispatch_keeps hkeep a.command a.index a.announced
  rw [reached.announce] at hannounced
  rw [reached.dispatch] at hdispatched
  exact hdispatched.trans hannounced

theorem eq_of_emitProgress_error {name : String} {status : Status}
    (h : e.emitProgress total index name status start r = (.error f, r')) : r' = r := by
  unfold emitProgress at h
  cases hcallback : e.callback? with
  | none =>
    rw [hcallback] at h
    cases h
  | some callback =>
    rw [hcallback] at h
    cases helapsed : elapsedSince start r.scene.clock with
    | error fault =>
      simp only [helapsed] at h
      exact (Prod.mk.inj h).2.symm
    | ok elapsed =>
      simp only [helapsed] at h
      cases (Prod.mk.inj h).1

theorem breaks_of_attempt (h : e.attempt start total index command r = (.error f, r')) :
    e.Breaks start total index command r f r' := by
  unfold attempt at h
  cases hannounce : e.emitProgress total index command.name .running start r with
  | mk outcome announced =>
    rw [hannounce] at h
    cases outcome with
    | error fault =>
      obtain ⟨hfault, rfl⟩ := Prod.mk.inj h
      obtain rfl := Except.error.inj hfault
      obtain rfl := eq_of_emitProgress_error hannounce
      exact .announce hannounce
    | ok _ =>
      dsimp only at h
      cases hdispatch : e.dispatch command index announced with
      | mk outcome dispatched =>
        rw [hdispatch] at h
        cases outcome with
        | error fault =>
          obtain ⟨hfault, rfl⟩ := Prod.mk.inj h
          obtain rfl := Except.error.inj hfault
          exact .dispatch hannounce hdispatch
        | ok result =>
          dsimp only at h
          -- The attempt that was on its way. Its report fails, so that it is never closed.
          let recorded := e.record command result dispatched
          let a : Attempt κ σ :=
            { index, command, opened := r, announced, dispatched, result, recorded
              closed := recorded }
          have hreached : e.Reaches start total a := ⟨hannounce, hdispatch, rfl⟩
          split at h
          · rename_i fault broken hreport
            obtain ⟨hfault, rfl⟩ := Prod.mk.inj h
            obtain rfl := Except.error.inj hfault
            obtain rfl := eq_of_emitProgress_error hreport
            exact Breaks.report hreached rfl rfl rfl hreport
          · cases (Prod.mk.inj h).1

theorem Breaks.attempt_eq (h : e.Breaks start total index command r f r') :
    e.attempt start total index command r = (.error f, r') := by
  unfold attempt
  cases h with
  | announce failed => simp only [failed]
  | dispatch announce failed => simp only [announce, failed]
  | report reached hindex hcommand hopened failed =>
    subst hindex hcommand hopened
    unfold Attempt.status at failed
    simp only [reached.announce, reached.dispatch, reached.record, failed]

/-! ### Calls of executors -/

/-- The result of a command after its executor has answered. -/
def answered (command : Command) (index : Nat) (made : Except Failure Outcome × Scene κ σ) :
    Except Clock.Fault CommandResult :=
  match resultOf command made.2 made.1 with
  | .ok result => .ok result
  | .error message =>
    failure (if command.name = "" then "unknown" else command.name) index message made.2

theorem dispatch_of_none
    (h : (r.scene.registries.get e.registry).get? command.name = none) :
    e.dispatch command index r =
      (failure command.name index ("Unknown command type: " ++ command.name) r.scene, r) := by
  unfold dispatch
  rw [h]

theorem dispatch_of_some {executor : κ}
    (h : (r.scene.registries.get e.registry).get? command.name = some executor) :
    let window := r.scene.context.window
    let made := e.collaborators.execute executor window command index r.scene
    e.dispatch command index r =
      (answered command index made, ⟨made.2, r.trace ++ [.call command.name index window]⟩) := by
  intro window made
  have hscene : (r.note (.call command.name index window)).scene = r.scene := rfl
  unfold dispatch answered
  rw [h]
  dsimp only
  split
  · rename_i result hresult
    have hmade : resultOf command made.2 made.1 = .ok result := hresult
    rw [hmade]
    rfl
  · rename_i message hresult
    have hmade : resultOf command made.2 made.1 = .error message := hresult
    rw [hmade]
    rfl

/-! ### Releases -/

theorem release_eq (e : Engine κ σ) (window : Value) (r : Run κ σ) :
    e.release window r = e.callRelease (r.scene.store.releaser? window) r := by
  unfold release Store.releaser? Store.abortEntry
  dsimp only
  generalize (if r.scene.store.isTruthy (r.scene.store.field window "happyDOM") = true then
    r.scene.store.field window "happyDOM" else r.scene.store.field window "happy_dom") = entry
  cases r.scene.store.presentAttribute? entry "abort" with
  | some m => cases m <;> cases entry <;> rfl
  | none =>
    dsimp only
    cases r.scene.store.presentAttribute? window "close" with
    | none => rfl
    | some m => cases m <;> cases window <;> rfl

/-- Before the new window is put in place, an attempt has noted its result and made at most one
call. -/
theorem freed_eq (e : Engine κ σ) (a : Attempt κ σ) :
    e.freed a = e.callRelease (e.releaser? a) a.noted := by
  unfold freed releaser? released?
  cases hwindow : e.newWindow? a with
  | none => rfl
  | some w =>
    simp only [Option.bind_some]
    unfold releaseReplaced
    split
    · exact release_eq e _ _
    · rfl

/-! ### What is added -/

theorem trace_callRelease (e : Engine κ σ) (m : Option (Release κ)) (r : Run κ σ) :
    (e.callRelease m r).trace = r.trace ++ (m.map Release.event).toList := by
  cases m with
  | none => simp [callRelease]
  | some m => simp [callRelease, Release.event]

theorem trace_emitProgress (e : Engine κ σ) (total index : Nat) (command : String)
    (status : Status) (start : Value) (r : Run κ σ) :
    (e.emitProgress total index command status start r).2.trace =
      r.trace ++ ((e.notice? total index command status start r).map .progress).toList := by
  unfold emitProgress notice?
  cases e.callback? with
  | none => simp
  | some callback =>
    cases elapsedSince start r.scene.clock with
    | error fault => simp [Except.toOption]
    | ok elapsed => simp [Except.toOption]

theorem trace_dispatch (e : Engine κ σ) (command : Command) (index : Nat) (r : Run κ σ) :
    (e.dispatch command index r).2.trace = r.trace ++ (e.call? command index r).toList := by
  unfold call?
  cases hexecutor : (r.scene.registries.get e.registry).get? command.name with
  | none =>
    rw [dispatch_of_none hexecutor]
    simp
  | some executor =>
    rw [dispatch_of_some hexecutor]
    simp

theorem trace_record (e : Engine κ σ) (a : Attempt κ σ) :
    (e.record a.command a.result a.dispatched).trace =
      a.dispatched.trace ++ ((e.releaser? a).map Release.event).toList := by
  cases hwindow : e.newWindow? a with
  | none =>
    rw [record_of_none hwindow]
    simp [releaser?, released?, hwindow, Attempt.noted, Run.withContext]
  | some w =>
    rw [record_of_some hwindow, trace_adoptState]
    exact (congrArg Run.trace (freed_eq e a)).trans (trace_callRelease e _ _)

theorem Reaches.trace_recorded (reached : e.Reaches start total a) :
    a.recorded.trace =
      a.opened.trace ++
        ((e.notice? total a.index a.command.name .running start a.opened).map .progress).toList ++
        (e.call? a.command a.index a.announced).toList ++
        ((e.releaser? a).map Release.event).toList := by
  have hannounce := trace_emitProgress e total a.index a.command.name .running start a.opened
  have hdispatch := trace_dispatch e a.command a.index a.announced
  rw [reached.announce] at hannounce
  rw [reached.dispatch] at hdispatch
  rw [← reached.record, trace_record, hdispatch, hannounce]

theorem Makes.trace_closed (made : e.Makes start total a) :
    a.closed.trace = a.opened.trace ++ e.events start total a := by
  have hreport := trace_emitProgress e total a.index a.command.name a.status start a.recorded
  rw [made.report] at hreport
  rw [hreport, made.reaches.trace_recorded]
  simp only [events, List.append_assoc]

theorem Breaks.trace_extends (h : e.Breaks start total index command r f r') :
    r.trace <+: r'.trace := by
  cases h with
  | announce => exact List.prefix_refl _
  | @dispatch announced _ announce failed =>
    have hannounce := trace_emitProgress e total index command.name .running start r
    have hdispatch := trace_dispatch e command index announced
    rw [announce] at hannounce
    rw [failed] at hdispatch
    rw [hdispatch, hannounce, List.append_assoc]
    exact List.prefix_append _ _
  | report reached hindex hcommand hopened failed =>
    rw [reached.trace_recorded, hopened, List.append_assoc, List.append_assoc]
    exact List.prefix_append _ _

/-- What has happened before an attempt stays, and so does what happens in it. -/
theorem Goes.trace_extends {commands : List Command} {row : List (Attempt κ σ)}
    {outcome : Except Escape Unit}
    (h : e.Goes start total index commands r row outcome r') :
    r.trace <+: r'.trace ∧ ∀ a ∈ row, a.closed.trace <+: r'.trace := by
  have hmade {a : Attempt κ σ} (made : e.Makes start total a) :
      a.opened.trace <+: a.closed.trace := by
    rw [made.trace_closed]
    exact List.prefix_append _ _
  induction h with
  | through => exact ⟨List.prefix_refl _, by simp⟩
  | fault failed => exact ⟨(breaks_of_attempt failed).trace_extends, by simp⟩
  | halt made _ => exact ⟨hmade made, by simp⟩
  | next made _ _ ih =>
    obtain ⟨hfirst, hlater⟩ := ih
    refine ⟨(hmade made).trans hfirst, ?_⟩
    intro b hb
    rcases List.mem_cons.mp hb with rfl | hb
    · exact hfirst
    · exact hlater b hb

end Engine

end Playbook
