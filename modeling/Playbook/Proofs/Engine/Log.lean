import Playbook.Proofs.Engine.Dispatch
import Playbook.Proofs.Engine.Releases

/-!
The log of a run. Command after command it holds an announcement, the call of the executor, the
release of the window that is replaced, and a report; nothing of a command is logged before its
predecessor is reported, and nothing at all of a command that is not reached. What the callback
answers or raises leaves no trace in it. Announcements and reports are only there if there is a
callback that counts as true: one that does not is passed over as if there were none.
-/

namespace Playbook

variable {κ σ : Type}

/-- A notification without its time. -/
structure Notice where
  total : Int
  current : Int
  command : String
  status : Status
  deriving Repr, DecidableEq

def Progress.notice (p : Progress) : Notice := ⟨p.total, p.current, p.command, p.status⟩

def Event.notice? : Event → Option Notice
  | .progress p => some p.notice
  | _ => none

namespace Engine

/-- One notification, or none where no callback is followed. -/
def Tells (e : Engine κ σ) (notice : Notice) (log : List Event) : Prop :=
  match e.callback? with
  | none => log = []
  | some _ => ∃ p : Progress, p.notice = notice ∧ log = [.progress p]

/-- A command is announced, and its executor is called if it has one in the run that it is
dispatched in. -/
def Begins (e : Engine κ σ) (total index : Nat) (command : Command) (announced : Run κ σ)
    (log : List Event) : Prop :=
  ∃ told, e.Tells ⟨total, index, command.name, .running⟩ told ∧
    log = told ++ ((e.executor? command announced.scene).map fun _ =>
      .call command.name index announced.scene.context.window).toList

/-- No window is released, or one by a single call in an attempt that replaces it. -/
def Frees (e : Engine κ σ) (a : Attempt κ σ) (log : List Event) : Prop :=
  log = [] ∨ ∃ m : Release κ, log = [m.event] ∧ (e.newWindow? a).isSome = true

/-- The events of an attempt, from its announcement to its report. -/
inductive Logs (e : Engine κ σ) (total : Nat) (a : Attempt κ σ) : List Event → Prop
  | mk {begun freed told : List Event}
      (begins : e.Begins total a.index a.command a.announced begun) (frees : e.Frees a freed)
      (reports : e.Tells ⟨total, a.index, a.command.name, a.status⟩ told) :
      Logs e total a (begun ++ freed ++ told)

/-- The events of a command for which a time was out of range before it was reported. -/
inductive LogsBroken (e : Engine κ σ) (total : Nat) : Nat → Command → List Event → Prop
  | announce {index : Nat} {command : Command} : LogsBroken e total index command []
  | dispatch {index : Nat} {command : Command} {announced : Run κ σ} {begun : List Event}
      (begins : e.Begins total index command announced begun) :
      LogsBroken e total index command begun
  | report {a : Attempt κ σ} {begun freed : List Event}
      (begins : e.Begins total a.index a.command a.announced begun) (frees : e.Frees a freed) :
      LogsBroken e total a.index a.command (begun ++ freed)

variable {e : Engine κ σ} {start : Value} {total index : Nat} {command : Command}
  {r r' : Run κ σ} {a : Attempt κ σ} {f : Clock.Fault}

/-- The callback is told once how far a command has come, if there is one that counts. -/
theorem trace_emitProgress_ok {name : String} {status : Status}
    (h : e.emitProgress total index name status start r = (.ok (), r')) :
    ∃ told, e.Tells ⟨total, index, name, status⟩ told ∧ r'.trace = r.trace ++ told := by
  have htrace := trace_emitProgress e total index name status start r
  rw [h] at htrace
  unfold emitProgress at h
  unfold Tells
  cases hcallback : e.callback? with
  | none => exact ⟨[], rfl, by simpa [notice?, hcallback] using htrace⟩
  | some callback =>
    rw [hcallback] at h
    cases helapsed : elapsedSince start r.scene.clock with
    | error fault => simp [helapsed] at h
    | ok elapsed =>
      refine ⟨_, ⟨{ total, current := index, command := name, status, elapsed }, rfl, rfl⟩, ?_⟩
      simpa [notice?, hcallback, helapsed, Except.toOption] using htrace

theorem begins_of_announced {announced r'' : Run κ σ} {outcome : Except Clock.Fault CommandResult}
    (hannounce : e.emitProgress total index command.name .running start r = (.ok (), announced))
    (hdispatch : e.dispatch command index announced = (outcome, r'')) :
    ∃ begun, e.Begins total index command announced begun ∧ r''.trace = r.trace ++ begun := by
  obtain ⟨told, htold, hannounced⟩ := trace_emitProgress_ok hannounce
  have hdispatched := trace_dispatch e command index announced
  rw [hdispatch, call?, e.get?_registry, hannounced, List.append_assoc] at hdispatched
  exact ⟨_, ⟨told, htold, rfl⟩, hdispatched⟩

theorem frees_released (e : Engine κ σ) (a : Attempt κ σ) : e.Frees a (e.released a) := by
  cases hreleaser : e.releaser? a with
  | none => exact .inl (by simp [released, hreleaser])
  | some m =>
    obtain ⟨old, hold, hreleases⟩ := releases_of_releaser? hreleaser
    obtain ⟨_, _, _, w, hw, _⟩ := released?_eq_some_iff.mp hold
    exact .inr ⟨m, hreleases.called, by rw [hw]; rfl⟩

theorem Reaches.begins (reached : e.Reaches start total a) :
    ∃ begun, e.Begins total a.index a.command a.announced begun ∧
      a.recorded.trace = a.opened.trace ++ (begun ++ e.released a) := by
  obtain ⟨begun, hbegins, hdispatched⟩ :=
    begins_of_announced reached.announce reached.dispatch
  refine ⟨begun, hbegins, ?_⟩
  rw [← reached.record, trace_record, hdispatched, List.append_assoc]
  rfl

theorem Makes.logs (made : e.Makes start total a) :
    ∃ log, e.Logs total a log ∧ a.closed.trace = a.opened.trace ++ log := by
  obtain ⟨begun, hbegins, hrecorded⟩ := made.reaches.begins
  obtain ⟨told, htold, hclosed⟩ := trace_emitProgress_ok made.report
  refine ⟨_, .mk hbegins (frees_released e a) htold, ?_⟩
  rw [hclosed, hrecorded, List.append_assoc]

theorem Breaks.logs (h : e.Breaks start total index command r f r') :
    ∃ log, e.LogsBroken total index command log ∧ r'.trace = r.trace ++ log := by
  cases h with
  | announce => exact ⟨[], .announce, by simp⟩
  | dispatch announce failed =>
    obtain ⟨begun, hbegins, htrace⟩ := begins_of_announced announce failed
    exact ⟨begun, .dispatch hbegins, htrace⟩
  | @report a reached hindex hcommand hopened _ =>
    subst hindex hcommand hopened
    obtain ⟨begun, hbegins, htrace⟩ := reached.begins
    exact ⟨_, .report hbegins (frees_released e a), htrace⟩

/-- Through any run, the log is that of its attempts one after another, and of the command that it
was broken off at, if it was. -/
theorem Goes.logs {commands : List Command} {row : List (Attempt κ σ)}
    {outcome : Except Escape Unit}
    (h : e.Goes start total index commands r row outcome r') :
    ∃ logs broken, r'.trace = r.trace ++ logs.flatten ++ broken ∧
      List.Forall₂ (e.Logs total) row logs ∧
      (broken = [] ∨ (∃ f, outcome = .error f) ∧ ∃ command, commands[row.length]? = some command ∧
        e.LogsBroken total (index + row.length) command broken) := by
  induction h with
  | through => exact ⟨[], [], by simp, .nil, .inl rfl⟩
  | fault failed =>
    obtain ⟨log, hbroken, htrace⟩ := (breaks_of_attempt failed).logs
    exact ⟨[], log, by simpa using htrace, .nil, .inr ⟨⟨_, rfl⟩, _, rfl, hbroken⟩⟩
  | halt made _ =>
    obtain ⟨log, hlog, htrace⟩ := made.logs
    exact ⟨[log], [], by simpa using htrace, .cons hlog .nil, .inl rfl⟩
  | @next a rest later outcome r' made _ _ ih =>
    obtain ⟨first, hfirst, htrace⟩ := made.logs
    obtain ⟨logs, broken, hmore, hlogs, hbroken⟩ := ih
    refine ⟨first :: logs, broken, ?_, .cons hfirst hlogs, ?_⟩
    · rw [hmore, htrace, List.flatten_cons]
      simp only [List.append_assoc]
    · refine hbroken.imp_right fun ⟨hfault, command, hcommand, hlog⟩ => ⟨hfault, command, ?_, ?_⟩
      · simpa using hcommand
      · have hplace : a.index + (a :: later).length = a.index + 1 + later.length := by
          rw [List.length_cons]
          omega
        rw [hplace]
        exact hlog

/-! ### Notifications -/

theorem Tells.notices {notice : Notice} {log : List Event} (h : e.Tells notice log) :
    log.filterMap Event.notice? = if e.callback?.isSome then [notice] else [] := by
  unfold Tells at h
  cases hcallback : e.callback? with
  | none =>
    rw [hcallback] at h
    simp [show log = [] from h]
  | some callback =>
    rw [hcallback] at h
    obtain ⟨p, hp, rfl⟩ := h
    simp [Event.notice?, hp]

theorem Begins.notices {announced : Run κ σ} {log : List Event}
    (h : e.Begins total index command announced log) :
    log.filterMap Event.notice? =
      if e.callback?.isSome then [⟨total, index, command.name, .running⟩] else [] := by
  obtain ⟨told, htold, rfl⟩ := h
  rw [List.filterMap_append, htold.notices]
  cases e.executor? command announced.scene <;> simp [Event.notice?]

theorem Frees.notices {log : List Event} (h : e.Frees a log) :
    log.filterMap Event.notice? = [] := by
  rcases h with rfl | ⟨m, rfl, _⟩ <;> rfl

/-- What is told of an attempt: its announcement and its report, or nothing where no callback is
followed. -/
def notices (e : Engine κ σ) (total : Nat) (a : Attempt κ σ) : List Notice :=
  if e.callback?.isSome then
    [⟨total, a.index, a.command.name, .running⟩, ⟨total, a.index, a.command.name, a.status⟩]
  else []

theorem Logs.notices {log : List Event} (h : e.Logs total a log) :
    log.filterMap Event.notice? = e.notices total a := by
  cases h with
  | mk begins frees reports =>
    rw [List.filterMap_append, List.filterMap_append, begins.notices, frees.notices,
      reports.notices, Engine.notices]
    split <;> rfl

theorem notices_flatten {row : List (Attempt κ σ)} {logs : List (List Event)}
    (h : List.Forall₂ (e.Logs total) row logs) :
    logs.flatten.filterMap Event.notice? = row.flatMap (e.notices total) := by
  induction h with
  | nil => rfl
  | cons first _ ih =>
    rw [List.flatten_cons, List.filterMap_append, first.notices, ih, List.flatMap_cons]

/-- The log of a run, whatever its callback does. It is put together of the logs of the attempted
commands, which are the first ones in their order: an announcement, one call of the executor if the
name has one at that moment, one call of a method at most if the window is replaced, and a report by
the entry that is recorded. With a callback that counts as true there are two notifications for each
of them, and none for any other command; a callback that counts as false is told nothing. Only a run
that comes to no account because of a time that is out of range may end amid the log of the command
after them. -/
theorem run_logs_commands_in_order (e : Engine κ σ) (config : Config) (r : Run κ σ) :
    let row := e.attempts config r
    let total := config.commands.length
    row.map Attempt.index = List.range row.length ∧
      row.map Attempt.command = config.commands.take row.length ∧
      ∃ logs broken, (e.execute config r).2.trace = r.trace ++ logs.flatten ++ broken ∧
        List.Forall₂ (e.Logs total) row logs ∧
        logs.flatten.filterMap Event.notice? = row.flatMap (e.notices total) ∧
        ((∃ result, (e.execute config r).1 = .ok result) → broken = []) ∧
        (broken = [] ∨ ∃ command, config.commands[row.length]? = some command ∧
          e.LogsBroken total row.length command broken) := by
  intro row total
  obtain ⟨outcome, hplays, hresult⟩ := plays_attempts e config r
  obtain ⟨logs, broken, htrace, hlogs, hbroken⟩ := Goes.logs hplays
  refine ⟨?_, Goes.commands_eq hplays, logs, broken, htrace, hlogs, notices_flatten hlogs, ?_, ?_⟩
  · rw [Goes.indices_eq hplays, List.range_eq_range']
  · rintro ⟨result, hreturn⟩
    rcases hbroken with hnone | ⟨⟨f, hfault⟩, _⟩
    · exact hnone
    · rw [hresult, hfault] at hreturn
      cases hreturn
  · refine hbroken.imp_right fun ⟨_, command, hcommand, hlog⟩ => ⟨command, hcommand, ?_⟩
    rw [Nat.zero_add] at hlog
    exact hlog

/-- The log of a run in which the callback raises each time, the first command replaces a window
that raises when it is closed, and the last one is unknown. -/
theorem unruly_run_logs_commands_in_order :
    let row := unrulyEngine.attempts unrulyConfig unrulyRun
    let last := (unrulyEngine.execute unrulyConfig unrulyRun).2
    last.trace.map (fun event => (event.notice?.map Notice.status, event.isMethod)) =
        [(some .running, false), (none, false), (none, true), (some .success, false),
          (some .running, false), (none, false), (some .error, false),
          (some .running, false), (none, false), (some .error, false),
          (some .running, false), (none, false), (some .error, false),
          (some .running, false), (some .error, false)] ∧
      ∃ logs, last.trace = logs.flatten ∧ List.Forall₂ (unrulyEngine.Logs 5) row logs := by
  intro row last
  obtain ⟨_, _, logs, broken, htrace, hlogs, _, hends, _⟩ :=
    run_logs_commands_in_order unrulyEngine unrulyConfig unrulyRun
  obtain rfl := hends ⟨_, rfl⟩
  refine ⟨by decide +kernel, logs, ?_, hlogs⟩
  have hopened : unrulyRun.trace = [] := rfl
  rw [hopened, List.nil_append, List.append_nil] at htrace
  exact htrace

/-- A callback that keeps what it is told, say, counts as false as long as it has kept nothing. So
nothing is told to it through a whole run, though all commands are attempted. -/
theorem uncounted_callback_counterexample :
    let recorder : Part := { answer := .ok (.value .null) }
    let e : Engine Part Unit :=
      { Part.engine with onProgress := some recorder, counts := fun _ => false }
    let last := e.execute unrulyConfig unrulyRun
    (∃ result, last.1 = .ok result ∧ result.results.length = 5) ∧
      last.2.trace.filterMap Event.notice? = [] :=
  ⟨⟨_, rfl, by decide +kernel⟩, by decide +kernel⟩

end Engine

end Playbook
