import Playbook.Proofs.Engine.Frame

/-!
Runs as rows of attempts. An attempt is one command from its announcement to its report, with the
run as it stood in between. `Goes` says how a run goes through a row of commands: which attempts it
makes, what it comes to and where it ends; `attemptsFrom` computes the row. Both agree with the
engine (`goes_attemptsFrom`), so that what holds of every attempt, and of every step from one to
the next, holds of every run.
-/

namespace Playbook

variable {κ σ : Type}

/-- One attempted command. -/
structure Attempt (κ σ : Type) where
  /-- The position of the command in its row. -/
  index : Nat
  command : Command
  /-- The run before the command is announced. -/
  opened : Run κ σ
  /-- The run that the command is dispatched in. -/
  announced : Run κ σ
  dispatched : Run κ σ
  result : CommandResult
  /-- The run with the result recorded, and with the new window in place if there is one. -/
  recorded : Run κ σ
  /-- The run after the report. -/
  closed : Run κ σ

namespace Attempt

/-- What is reported of the command. -/
def status (a : Attempt κ σ) : Status := if a.result.success then .success else .error

/-- The run with the result recorded and nothing else done about it. -/
def noted (a : Attempt κ σ) : Run κ σ :=
  a.dispatched.withContext fun c => { c with results := c.results ++ [a.result] }

/-- The command failed, and the context does not say to go on when that is asked after it. -/
def Halts (a : Attempt κ σ) : Prop :=
  a.result.success = false ∧
    a.closed.scene.store.isTruthy a.closed.scene.context.continueOnError = false

instance (a : Attempt κ σ) : Decidable a.Halts := inferInstanceAs (Decidable (_ ∧ _))

theorem halts_iff_stopsAfter (a : Attempt κ σ) :
    a.Halts ↔ Engine.stopsAfter a.result a.closed = true := by
  simp [Halts, Engine.stopsAfter]

/-- What the last of some attempts to give a value gave, or the first value if none gave one. -/
def latest (given : Attempt κ σ → Option Value) (first : Value) (row : List (Attempt κ σ)) :
    Value :=
  (row.filterMap given).getLast?.getD first

section Latest

variable (given : Attempt κ σ → Option Value) (first : Value)

@[simp] theorem latest_nil : latest given first [] = first := rfl

theorem latest_cons (a : Attempt κ σ) (row : List (Attempt κ σ)) :
    latest given first (a :: row) = latest given ((given a).getD first) row := by
  unfold latest
  cases hgiven : given a with
  | none => rw [List.filterMap_cons_none hgiven, Option.getD_none]
  | some v =>
    rw [List.filterMap_cons_some hgiven, List.getLast?_cons, Option.getD_some, Option.getD_some]

theorem latest_append (row later : List (Attempt κ σ)) :
    latest given first (row ++ later) = latest given (latest given first row) later := by
  induction row generalizing first with
  | nil => rfl
  | cons a rest ih => rw [List.cons_append, latest_cons, ih, latest_cons]

end Latest

end Attempt

namespace Engine

/-- The engine makes an attempt: each part of it leads to the run that the next part starts in. -/
structure Makes (e : Engine κ σ) (start : Value) (total : Nat) (a : Attempt κ σ) : Prop where
  announce : e.emitProgress total a.index a.command.name .running start a.opened =
    (.ok (), a.announced)
  dispatch : e.dispatch a.command a.index a.announced = (.ok a.result, a.dispatched)
  record : e.record a.command a.result a.dispatched = a.recorded
  report : e.emitProgress total a.index a.command.name a.status start a.recorded =
    (.ok (), a.closed)

/-- How a run goes through the commands from a position on. -/
inductive Goes (e : Engine κ σ) (start : Value) (total : Nat) :
    Nat → List Command → Run κ σ → List (Attempt κ σ) → Except Escape Unit → Run κ σ → Prop
  /-- No command is left. -/
  | through (index : Nat) (r : Run κ σ) : Goes e start total index [] r [] (.ok ()) r
  /-- A time was out of range before the attempt was complete. -/
  | fault {index : Nat} {command : Command} {rest : List Command} {r r' : Run κ σ}
      {f : Clock.Fault} (failed : e.attempt start total index command r = (.error f, r')) :
      Goes e start total index (command :: rest) r [] (.error (.clock f)) r'
  | halt {a : Attempt κ σ} {rest : List Command} (made : e.Makes start total a)
      (stop : a.Halts) :
      Goes e start total a.index (a.command :: rest) a.opened [a] (.ok ()) a.closed
  | next {a : Attempt κ σ} {rest : List Command} {later : List (Attempt κ σ)}
      {outcome : Except Escape Unit} {r' : Run κ σ} (made : e.Makes start total a)
      (on : ¬ a.Halts) (more : Goes e start total (a.index + 1) rest a.closed later outcome r') :
      Goes e start total a.index (a.command :: rest) a.opened (a :: later) outcome r'

/-- The attempt at a command, when it is completed. -/
def make? (e : Engine κ σ) (start : Value) (total index : Nat) (command : Command)
    (r : Run κ σ) : Option (Attempt κ σ) :=
  match e.emitProgress total index command.name .running start r with
  | (.error _, _) => none
  | (.ok _, announced) =>
    match e.dispatch command index announced with
    | (.error _, _) => none
    | (.ok result, dispatched) =>
      let recorded := e.record command result dispatched
      let status := if result.success then Status.success else .error
      match e.emitProgress total index command.name status start recorded with
      | (.error _, _) => none
      | (.ok _, closed) =>
        some { index, command, opened := r, announced, dispatched, result, recorded, closed }

/-- The attempts that a run makes at the commands from a position on. -/
def attemptsFrom (e : Engine κ σ) (start : Value) (total : Nat) :
    Nat → List Command → Run κ σ → List (Attempt κ σ)
  | _, [], _ => []
  | index, command :: rest, r =>
    match e.make? start total index command r with
    | none => []
    | some a =>
      if stopsAfter a.result a.closed then [a]
      else a :: e.attemptsFrom start total (index + 1) rest a.closed

/-- The attempts that the run of a configuration makes. -/
def attempts (e : Engine κ σ) (config : Config) (r : Run κ σ) : List (Attempt κ σ) :=
  e.attemptsFrom (startOf r.scene) config.commands.length 0 config.commands (prepare config r)

/-- How the run of a configuration goes, from its opening on. -/
def Plays (e : Engine κ σ) (config : Config) (r : Run κ σ) (row : List (Attempt κ σ))
    (outcome : Except Escape Unit) (r' : Run κ σ) : Prop :=
  e.Goes (startOf r.scene) config.commands.length 0 config.commands (prepare config r) row
    outcome r'

variable {e : Engine κ σ} {start : Value} {total index : Nat} {command : Command}
  {r : Run κ σ} {a : Attempt κ σ}

/-- A completed attempt is one that the engine makes, at the place it was asked for. -/
theorem make?_makes (h : e.make? start total index command r = some a) :
    e.Makes start total a ∧ a.index = index ∧ a.command = command ∧ a.opened = r := by
  unfold make? at h
  split at h
  · cases h
  · rename_i announced hannounce
    split at h
    · cases h
    · rename_i result dispatched hdispatch
      dsimp only at h
      split at h
      · cases h
      · rename_i closed hreport
        cases h
        exact ⟨⟨hannounce, hdispatch, rfl, hreport⟩, rfl, rfl, rfl⟩

/-- An attempt that is made is what the engine's own attempt comes to. -/
theorem Makes.attempt_eq (made : e.Makes start total a) :
    e.attempt start total a.index a.command a.opened = (.ok a.result, a.closed) := by
  unfold attempt
  simp only [made.announce, made.dispatch, made.record]
  have hreport := made.report
  unfold Attempt.status at hreport
  simp only [hreport]

theorem Makes.make?_eq (made : e.Makes start total a) :
    e.make? start total a.index a.command a.opened = some a := by
  have hreport := made.report
  unfold Attempt.status at hreport
  simp only [make?, made.announce, made.dispatch, made.record, hreport]

theorem attempt_fails_of_make?_eq_none (h : e.make? start total index command r = none) :
    ∃ f, (e.attempt start total index command r).1 = .error f := by
  unfold attempt
  cases hannounce : e.emitProgress total index command.name .running start r with
  | mk outcome announced =>
    cases outcome with
    | error f => exact ⟨f, rfl⟩
    | ok _ =>
      dsimp only
      cases hdispatch : e.dispatch command index announced with
      | mk outcome dispatched =>
        cases outcome with
        | error f => exact ⟨f, rfl⟩
        | ok result =>
          dsimp only
          cases hreport : e.emitProgress total index command.name
              (if result.success then .success else .error) start
              (e.record command result dispatched) with
          | mk outcome closed =>
            cases outcome with
            | error f => exact ⟨f, rfl⟩
            | ok _ =>
              simp only [make?, hannounce, hdispatch, hreport] at h
              cases h

theorem makes_of_attempt {result : CommandResult} {closed : Run κ σ}
    (h : e.attempt start total index command r = (.ok result, closed)) :
    ∃ a, e.Makes start total a ∧ a.index = index ∧ a.command = command ∧ a.opened = r ∧
      a.result = result ∧ a.closed = closed := by
  cases hmake : e.make? start total index command r with
  | none =>
    obtain ⟨f, hf⟩ := attempt_fails_of_make?_eq_none hmake
    rw [h] at hf
    cases hf
  | some a =>
    obtain ⟨made, rfl, rfl, rfl⟩ := make?_makes hmake
    rw [made.attempt_eq] at h
    obtain ⟨hresult, hclosed⟩ := Prod.mk.inj h
    exact ⟨a, made, rfl, rfl, rfl, Except.ok.inj hresult, hclosed⟩

/-! ### Without hazards -/

theorem unwritten?_never (config : Config) (s : Scene κ σ) :
    (Hazards.never : Hazards κ σ).unwritten? config s = none := by
  cases hsettings : config.settings.toOption <;> simp [Hazards.unwritten?, Hazards.never, hsettings]

theorem struck?_never (result : CommandResult) (r : Run κ σ) :
    (Hazards.never : Hazards κ σ).struck? result r = none := by
  simp [Hazards.struck?, Hazards.never]

theorem unrecorded?_never (command : Command) :
    (Hazards.never : Hazards κ σ).unrecorded? e start total index command r = none := by
  unfold Hazards.unrecorded?
  repeat' split <;> try rfl

/-- The commands from a position on, where nothing is raised. -/
theorem runFrom_cons (rest : List Command) :
    e.runFrom start total index (command :: rest) r =
      match e.attempt start total index command r with
      | (.error f, r) => (.error (.clock f), r)
      | (.ok result, r) =>
        if stopsAfter result r then (.ok (), r)
        else e.runFrom start total (index + 1) rest r := by
  have hfollowed : (e.onProgress.bind (Hazards.never : Hazards κ σ).following) = none := by
    cases e.onProgress <;> rfl
  rw [runFrom, Hazards.runFrom, hfollowed, unrecorded?_never]
  cases hattempt : e.attempt start total index command r with
  | mk outcome s =>
    cases outcome with
    | error f => rfl
    | ok result =>
      dsimp only
      rw [struck?_never]
      rfl

/-- The run of a configuration, where nothing is raised. -/
theorem execute_never (e : Engine κ σ) (config : Config) (r : Run κ σ) :
    e.execute config r =
      match e.runFrom (startOf r.scene) config.commands.length 0 config.commands
        (prepare config r) with
      | (.error err, r) => (.error err, r)
      | (.ok _, s) => ((account config (startOf r.scene) s.scene).mapError .clock, s) := by
  unfold execute
  rw [unwritten?_never]
  rfl

/-- The computed row of attempts is how the engine's own loop goes. -/
theorem goes_attemptsFrom (e : Engine κ σ) (start : Value) (total index : Nat)
    (commands : List Command) (r : Run κ σ) :
    e.Goes start total index commands r (e.attemptsFrom start total index commands r)
      (e.runFrom start total index commands r).1 (e.runFrom start total index commands r).2 := by
  induction commands generalizing index r with
  | nil => exact .through index r
  | cons command rest ih =>
    cases hmake : e.make? start total index command r with
    | none =>
      obtain ⟨f, hf⟩ := attempt_fails_of_make?_eq_none hmake
      have hattempt : e.attempt start total index command r =
          (.error f, (e.attempt start total index command r).2) := by rw [← hf]
      simp only [attemptsFrom, hmake]
      rw [runFrom_cons, hattempt]
      exact .fault hattempt
    | some a =>
      obtain ⟨made, rfl, rfl, rfl⟩ := make?_makes hmake
      simp only [attemptsFrom, hmake, runFrom_cons, made.attempt_eq]
      by_cases hstop : stopsAfter a.result a.closed = true
      · simp only [hstop, if_true]
        exact .halt made (a.halts_iff_stopsAfter.mpr hstop)
      · simp only [hstop, Bool.false_eq_true, if_false]
        exact .next made (fun h => hstop (a.halts_iff_stopsAfter.mp h)) (ih _ _)

/-- The run of a configuration goes through its attempts, and comes to its account unless a time
was out of range on the way. -/
theorem plays_attempts (e : Engine κ σ) (config : Config) (r : Run κ σ) :
    ∃ outcome, e.Plays config r (e.attempts config r) outcome (e.execute config r).2 ∧
      (e.execute config r).1 = outcome.bind fun _ =>
        (account config (startOf r.scene) (e.execute config r).2.scene).mapError .clock := by
  have hgoes := goes_attemptsFrom e (startOf r.scene) config.commands.length 0 config.commands
    (prepare config r)
  cases hrun : e.runFrom (startOf r.scene) config.commands.length 0 config.commands
    (prepare config r) with
  | mk outcome r' =>
    simp only [hrun] at hgoes
    cases outcome with
    | error err =>
      have hexecute : e.execute config r = (.error err, r') := by simp only [execute_never, hrun]
      rw [hexecute]
      exact ⟨.error err, hgoes, rfl⟩
    | ok done =>
      have hexecute : e.execute config r =
          ((account config (startOf r.scene) r'.scene).mapError .clock, r') := by
        simp only [execute_never, hrun]
      rw [hexecute]
      exact ⟨.ok done, hgoes, rfl⟩

theorem mapError_eq_ok {α β γ : Type} {x : Except α γ} {f : α → β} {a : γ}
    (h : x.mapError f = .ok a) : x = .ok a := by
  cases x with
  | error _ => cases h
  | ok b => exact congrArg Except.ok (Except.ok.inj h)

/-- A run that gives an account has come to its end. -/
theorem plays_of_execute_eq_ok {e : Engine κ σ} {config : Config} {r : Run κ σ}
    {result : RunResult} (h : (e.execute config r).1 = .ok result) :
    e.Plays config r (e.attempts config r) (.ok ()) (e.execute config r).2 ∧
      account config (startOf r.scene) (e.execute config r).2.scene = .ok result := by
  obtain ⟨outcome, hplays, hresult⟩ := plays_attempts e config r
  rw [hresult] at h
  cases outcome with
  | error f => cases h
  | ok done => exact ⟨hplays, mapError_eq_ok h⟩

namespace Makes

variable {α : Type} {f : Scene κ σ → α}

theorem announced_keeps (made : e.Makes start total a) (hkeep : e.collaborators.Keeps f) :
    f a.announced.scene = f a.opened.scene := by
  have h := emitProgress_keeps hkeep total a.index a.command.name .running start a.opened
  rwa [made.announce] at h

theorem dispatched_keeps (made : e.Makes start total a) (hkeep : e.collaborators.Keeps f) :
    f a.dispatched.scene = f a.opened.scene := by
  have h := dispatch_keeps hkeep a.command a.index a.announced
  rw [made.dispatch] at h
  exact h.trans (made.announced_keeps hkeep)

theorem closed_keeps (made : e.Makes start total a) (hkeep : e.collaborators.Keeps f) :
    f a.closed.scene = f a.recorded.scene := by
  have h := emitProgress_keeps hkeep total a.index a.command.name a.status start a.recorded
  rwa [made.report] at h

end Makes

end Engine

namespace Engine.Goes

variable {e : Engine κ σ} {start : Value} {total index : Nat} {commands : List Command}
  {r r' : Run κ σ} {row : List (Attempt κ σ)} {outcome : Except Escape Unit}

theorem made (h : e.Goes start total index commands r row outcome r') :
    ∀ a ∈ row, e.Makes start total a := by
  induction h with
  | through => simp
  | fault => simp
  | halt made _ => simpa using made
  | next made _ _ ih => simpa using ⟨made, ih⟩

/-- Attempts are made at the commands in their order, from the first one on. -/
theorem commands_eq (h : e.Goes start total index commands r row outcome r') :
    row.map Attempt.command = commands.take row.length := by
  induction h with
  | through => rfl
  | fault => rfl
  | halt => simp
  | next _ _ _ ih => simp [ih]

theorem length_le (h : e.Goes start total index commands r row outcome r') :
    row.length ≤ commands.length := by
  have hlength := congrArg List.length h.commands_eq
  simp only [List.length_map, List.length_take] at hlength
  omega

theorem indices_eq (h : e.Goes start total index commands r row outcome r') :
    row.map Attempt.index = List.range' index row.length := by
  induction h with
  | through => rfl
  | fault => rfl
  | halt => rfl
  | next _ _ _ ih => simp [ih, List.range'_succ]

/-- An attempt stands at the place that its row gives it. -/
theorem index_eq (h : e.Goes start total index commands r row outcome r')
    {before after : List (Attempt κ σ)} {a : Attempt κ σ} (hrow : row = before ++ a :: after) :
    a.index = index + before.length := by
  have hindices := h.indices_eq
  rw [hrow] at hindices
  have hat := congrArg (fun l => l[before.length]?) hindices
  simpa using hat

theorem command_eq (h : e.Goes start total index commands r row outcome r')
    {before after : List (Attempt κ σ)} {a : Attempt κ σ} (hrow : row = before ++ a :: after) :
    commands[before.length]? = some a.command := by
  have hcommands := h.commands_eq
  rw [hrow] at hcommands
  have hat := congrArg (fun l => l[before.length]?) hcommands
  simpa using hat.symm

/-- There is one way in which a run goes: the row is the computed one, and the end is that of the
engine's own loop. -/
theorem eq_attemptsFrom (h : e.Goes start total index commands r row outcome r') :
    row = e.attemptsFrom start total index commands r ∧
      e.runFrom start total index commands r = (outcome, r') := by
  induction h with
  | through => exact ⟨rfl, rfl⟩
  | @fault index command rest r r' f failed =>
    refine ⟨?_, by rw [runFrom_cons, failed]⟩
    cases hmake : e.make? start total index command r with
    | none => simp only [attemptsFrom, hmake]
    | some a =>
      obtain ⟨made, rfl, rfl, rfl⟩ := make?_makes hmake
      rw [made.attempt_eq] at failed
      cases (Prod.mk.inj failed).1
  | @halt a rest made stop =>
    have hstop := a.halts_iff_stopsAfter.mp stop
    simp only [attemptsFrom, runFrom_cons, made.make?_eq, made.attempt_eq, hstop, if_true, and_self]
  | @next a rest later outcome r' made on _ ih =>
    have hon : ¬ stopsAfter a.result a.closed = true := fun h => on (a.halts_iff_stopsAfter.mpr h)
    obtain ⟨hlater, hrun⟩ := ih
    simp only [attemptsFrom, runFrom_cons, made.make?_eq, made.attempt_eq, if_neg hon, ← hlater, hrun,
      and_self]

/-- What ends a run is its last attempt. -/
theorem halts_last (h : e.Goes start total index commands r row outcome r')
    {before after : List (Attempt κ σ)} {a : Attempt κ σ} (hrow : row = before ++ a :: after)
    (hstop : a.Halts) : after = [] := by
  induction h generalizing before with
  | through => simp at hrow
  | fault => simp at hrow
  | halt =>
    have hlength := congrArg List.length hrow
    simp only [List.length_cons, List.length_nil, List.length_append] at hlength
    exact List.length_eq_zero_iff.mp (by omega)
  | next _ on _ ih =>
    cases before with
    | nil =>
      obtain ⟨rfl, _⟩ := List.cons.inj hrow
      exact absurd hstop on
    | cons first before =>
      obtain ⟨_, hrest⟩ := List.cons.inj hrow
      exact ih hrest

/-- A run that comes to its end has tried every command, unless its last attempt ended it. -/
theorem tries_all_or_halts (h : e.Goes start total index commands r row outcome r')
    (hend : outcome = .ok ()) :
    row.length = commands.length ∨ ∃ before a, row = before ++ [a] ∧ a.Halts := by
  induction h with
  | through => exact .inl rfl
  | fault => cases hend
  | @halt a _ _ stop => exact .inr ⟨[], a, rfl, stop⟩
  | @next first _ _ _ _ _ _ _ ih =>
    rcases ih hend with hall | ⟨before, a, rfl, hstop⟩
    · exact .inl (by simp [hall])
    · exact .inr ⟨first :: before, a, rfl, hstop⟩

/-- What every attempt does to a view of the run, the run does step by step: before an attempt the
view is what the attempts before it have made of the first one. -/
theorem fold {α : Type} (view : Run κ σ → α) (step : α → Attempt κ σ → α)
    (h : e.Goes start total index commands r row outcome r')
    (hstep : ∀ a ∈ row, e.Makes start total a → view a.closed = step (view a.opened) a) :
    (∀ before a after, row = before ++ a :: after →
      view a.opened = before.foldl step (view r)) ∧
    (outcome = .ok () → view r' = row.foldl step (view r)) := by
  induction h with
  | through => exact ⟨by simp, fun _ => rfl⟩
  | fault => exact ⟨by simp, nofun⟩
  | @halt first _ made _ =>
    have hfirst := hstep first (by simp) made
    refine ⟨?_, fun _ => hfirst⟩
    intro before a after hrow
    cases before with
    | nil =>
      obtain ⟨rfl, _⟩ := List.cons.inj hrow
      rfl
    | cons b before => simp at hrow
  | @next first _ later _ _ made _ _ ih =>
    have hfirst := hstep first (by simp) made
    obtain ⟨hopened, hend⟩ := ih fun a ha => hstep a (by simp [ha])
    refine ⟨?_, fun hok => ?_⟩
    · intro before a after hrow
      cases before with
      | nil =>
        obtain ⟨rfl, _⟩ := List.cons.inj hrow
        rfl
      | cons b before =>
        obtain ⟨rfl, hrest⟩ := List.cons.inj hrow
        rw [hopened before a after hrest, List.foldl_cons, hfirst]
    · rw [hend hok, List.foldl_cons, hfirst]

/-- An attempt begins where the one before it was closed, and a run that comes to its end is left
where its last attempt was closed. -/
theorem opened_closed (h : e.Goes start total index commands r row outcome r') :
    (∀ before a next after, row = before ++ a :: next :: after → next.opened = a.closed) ∧
      ∀ before a, row = before ++ [a] → outcome = .ok () → r' = a.closed := by
  obtain ⟨hopened, hend⟩ := h.fold id (fun _ a => a.closed) fun _ _ _ => rfl
  refine ⟨?_, ?_⟩
  · intro before a next after hrow
    have hnext := hopened (before ++ [a]) next after (by simp [hrow])
    simpa using hnext
  · intro before a hrow hok
    have hlast := hend hok
    rw [hrow] at hlast
    simpa using hlast

/-- Where every attempt either gives a view of the run its value or leaves it, the view is at any
time what was given last, or what it was at first. -/
theorem latest (view : Run κ σ → Value) (given : Attempt κ σ → Option Value)
    (h : e.Goes start total index commands r row outcome r')
    (hstep : ∀ a ∈ row, e.Makes start total a →
      view a.closed = (given a).getD (view a.opened)) :
    (∀ before a after, row = before ++ a :: after →
      view a.opened = Attempt.latest given (view r) before) ∧
    (outcome = .ok () → view r' = Attempt.latest given (view r) row) := by
  have hfold (row : List (Attempt κ σ)) (first : Value) :
      row.foldl (fun held a => (given a).getD held) first = Attempt.latest given first row := by
    induction row generalizing first with
    | nil => rfl
    | cons a rest ih => rw [List.foldl_cons, ih, Attempt.latest_cons]
  obtain ⟨hopened, hend⟩ := h.fold view (fun held a => (given a).getD held) hstep
  refine ⟨?_, ?_⟩
  · intro before a after hrow
    rw [hopened before a after hrow, hfold]
  · intro hok
    rw [hend hok, hfold]

end Engine.Goes

namespace Engine

/-- How the run of a configuration goes is what the run comes to. -/
theorem Plays.execute_eq {e : Engine κ σ} {config : Config} {r r' : Run κ σ}
    {row : List (Attempt κ σ)} {outcome : Except Escape Unit}
    (h : e.Plays config r row outcome r') :
    row = e.attempts config r ∧ e.execute config r =
      (outcome.bind fun _ => (account config (startOf r.scene) r'.scene).mapError .clock, r') := by
  obtain ⟨hrow, hrun⟩ := Goes.eq_attemptsFrom h
  refine ⟨hrow, ?_⟩
  rw [execute_never, hrun]
  cases outcome <;> rfl

end Engine

end Playbook
