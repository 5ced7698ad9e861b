import Playbook.Config.Check
import Playbook.Engine.Writing
import Playbook.Proofs.Engine.Accounting
import Playbook.Proofs.Engine.Hazards

/-!
Runs give an account. Whatever executors, callbacks and methods of windows answer or raise becomes
data of the run; the one thing that is not is a time without a time stamp. A run that comes to no
account stands where such a time was read, so with times in range every run comes to its end.
-/

namespace Playbook

variable {κ σ : Type}

namespace Clock

/-- A double that stands for a number. -/
def IsNumber (x : Float) : Prop := ∃ b, Decimal.readFloat x = .finite b

theorem whole_of_isNumber {x : Float} (h : IsNumber x) : ∃ n, whole x = .ok n := by
  obtain ⟨b, hb⟩ := h
  exact ⟨b.truncate, by simp only [whole, hb]⟩

theorem isNumber_of_whole {x : Float} (h : (whole x).toOption.isSome = true) : IsNumber x := by
  unfold whole at h
  cases hread : Decimal.readFloat x with
  | finite b => exact ⟨b, hread⟩
  | infinite _ => simp [hread, Except.toOption] at h
  | notANumber => simp [hread, Except.toOption] at h

/-- A time that is finite in milliseconds, as is the span since a start time. -/
structure InRange (start now : Float) : Prop where
  stamp : IsNumber (now * 1000.0)
  span : IsNumber ((now - start) * 1000.0)

end Clock

namespace Engine

/-- The time that a run counts from: the start time of its context, if one is set, or the
present. -/
def startInstant (scene : Scene κ σ) : Float :=
  match scene.context.startTime with
  | .float x => if x != 0.0 then x else scene.clock
  | _ => scene.clock

/-- A start time that is left open, or set to a double, counts as what it says. -/
theorem startSeconds_startOf {scene : Scene κ σ}
    (hstart : scene.context.startTime = .null ∨ ∃ x, scene.context.startTime = .float x) :
    startSeconds (startOf scene) = .ok (startInstant scene) := by
  rcases hstart with hopen | ⟨x, hset⟩
  · simp [startOf, startInstant, hopen, Store.isTruthy, Value.isTruthy, startSeconds]
  · simp only [startOf, startInstant, hset, Store.isTruthy, Value.isTruthy]
    split <;> rfl

/-- A time was read that cannot be shown, or that no span can be told of. -/
def TimeFault (start : Value) (now : Float) (f : Clock.Fault) : Prop :=
  elapsedSince start now = .error f ∨ Clock.milliseconds now = .error f

theorem not_timeFault {start : Value} {begun now : Float} {f : Clock.Fault}
    (hstart : startSeconds start = .ok begun) (hrange : Clock.InRange begun now) :
    ¬ TimeFault start now f := by
  obtain ⟨stamp, hstamp⟩ := Clock.whole_of_isNumber hrange.stamp
  obtain ⟨span, hspan⟩ := Clock.whole_of_isNumber hrange.span
  rintro (helapsed | hmilliseconds)
  · simp only [elapsedSince, hstart, Clock.elapsed, Clock.milliseconds, hspan] at helapsed
    cases helapsed
  · simp only [Clock.milliseconds, hstamp] at hmilliseconds
    cases hmilliseconds

variable {e : Engine κ σ} {start : Value} {total index : Nat} {command : Command}
  {r r' : Run κ σ} {f : Clock.Fault}

/-- Announcing and reporting fail on the present time only; what the callback raises is lost. -/
theorem emitProgress_fault {name : String} {status : Status}
    (h : e.emitProgress total index name status start r = (.error f, r')) :
    TimeFault start r'.scene.clock f := by
  unfold emitProgress at h
  split at h
  · cases h
  · split at h
    · rename_i helapsed
      cases h
      exact .inl helapsed
    · cases h

/-- A failed result wants a time stamp, and only that can be missing. -/
theorem failure_fault {name message : String} {scene : Scene κ σ}
    (h : failure name index message scene = .error f) : Clock.milliseconds scene.clock = .error f := by
  unfold failure at h
  split at h
  · rename_i hmilliseconds
    cases h
    exact hmilliseconds
  · cases h

/-- Whatever an executor answers or raises, dispatching gives a result, unless a failed one could
not be stamped. -/
theorem dispatch_fault (h : e.dispatch command index r = (.error f, r')) :
    TimeFault start r'.scene.clock f := by
  unfold dispatch at h
  split at h
  · obtain ⟨hfailure, rfl⟩ := Prod.mk.inj h
    exact .inr (failure_fault hfailure)
  · dsimp only at h
    split at h
    · cases h
    · obtain ⟨hfailure, rfl⟩ := Prod.mk.inj h
      exact .inr (failure_fault hfailure)

theorem attempt_fault (h : e.attempt start total index command r = (.error f, r')) :
    TimeFault start r'.scene.clock f := by
  unfold attempt at h
  split at h
  · rename_i hannounce
    cases h
    exact emitProgress_fault hannounce
  · split at h
    · rename_i hdispatch
      cases h
      exact dispatch_fault hdispatch
    · dsimp only at h
      split at h
      · rename_i hreport
        cases h
        exact emitProgress_fault hreport
      · cases h

/-- A run that does not come to its end stands where a time could not be read. -/
theorem Goes.timeFault {commands : List Command} {row : List (Attempt κ σ)}
    {outcome : Except Escape Unit} {err : Escape}
    (h : e.Goes start total index commands r row outcome r') (hfault : outcome = .error err) :
    ∃ f, err = .clock f ∧ TimeFault start r'.scene.clock f := by
  induction h with
  | through => cases hfault
  | @fault _ _ _ _ _ f failed =>
    obtain rfl := Except.error.inj hfault
    exact ⟨f, rfl, attempt_fault failed⟩
  | halt => cases hfault
  | next _ _ _ ih => exact ih hfault

theorem account_fault {config : Config} {scene : Scene κ σ}
    (h : account config start scene = .error f) : elapsedSince start scene.clock = .error f := by
  unfold account at h
  split at h
  · rename_i helapsed
    cases h
    exact helapsed
  · cases h

/-- Where nothing is raised, only a time that cannot be read keeps a run from its account. -/
theorem execute_fault {config : Config} {err : Escape} (h : (e.execute config r).1 = .error err) :
    ∃ f, err = .clock f ∧ TimeFault (startOf r.scene) (e.execute config r).2.scene.clock f := by
  obtain ⟨outcome, hplays, hresult⟩ := plays_attempts e config r
  rw [hresult] at h
  cases outcome with
  | error escape =>
    obtain rfl : escape = err := by simpa [Except.bind] using h
    exact Goes.timeFault hplays rfl
  | ok _ =>
    cases haccount : account config (startOf r.scene) (e.execute config r).2.scene with
    | error f =>
      rw [haccount] at h
      obtain rfl : Escape.clock f = err := Except.error.inj h
      exact ⟨f, rfl, .inl (account_fault haccount)⟩
    | ok result =>
      rw [haccount] at h
      cases h

/-! ### Amid hazards -/

section Hazards

variable {hz : Hazards κ σ} {config : Config} {s : Run κ σ}

/-- With times in range, a run comes to no account exactly when it meets a hazard. -/
theorem execute_eq_error_iff {err : Escape}
    (hstart : r.scene.context.startTime = .null ∨ ∃ x, r.scene.context.startTime = .float x)
    (hclock : Clock.InRange (startInstant r.scene) (e.execute config r hz).2.scene.clock) :
    e.execute config r hz = (.error err, s) ↔ ∃ f, err = .raised f ∧ e.Meets hz config r f s := by
  constructor
  · intro herror
    rcases meets_or_execute_eq e hz config r with ⟨f, met, hmeets⟩ | hnone
    · obtain ⟨herr, rfl⟩ := Prod.mk.inj ((execute_of_meets hmeets).symm.trans herror)
      exact ⟨f, (Except.error.inj herr).symm, hmeets⟩
    · rw [hnone] at herror hclock
      obtain ⟨f, _, hfault⟩ := execute_fault (congrArg Prod.fst herror)
      exact absurd hfault (not_timeFault (startSeconds_startOf hstart) hclock)
  · rintro ⟨f, rfl, hmeets⟩
    exact execute_of_meets hmeets

/-- What escapes a run, and what does not. With a start time that is left open or set to a double,
and with the clock in range where the run ends, a run ends without its account exactly where it
meets a hazard, and then with what is raised there: settings that cannot be written out, a callback
or a flag to go on that cannot be asked whether it counts, a failure that cannot be put on record.
Otherwise it goes through all of its attempts and gives the account of what is recorded. Nothing is
asked of the collaborators: they may answer or raise anything and change the scene as they like.
That the clock is in range at the end is the least that can be asked, since a time that is out of
range ends the run where it is read. -/
theorem execute_raises_at_hazards_only
    (hstart : r.scene.context.startTime = .null ∨ ∃ x, r.scene.context.startTime = .float x)
    (hclock : Clock.InRange (startInstant r.scene) (e.execute config r hz).2.scene.clock) :
    (∀ err s, e.execute config r hz = (.error err, s) ↔
        ∃ f, err = .raised f ∧ e.Meets hz config r f s) ∧
      ((∀ f s, ¬ e.Meets hz config r f s) → ∃ result, (e.execute config r hz).1 = .ok result ∧
        e.Plays config r (e.attempts config r) (.ok ()) (e.execute config r hz).2 ∧
        Tallies config.commands.length (e.execute config r hz).2.scene.context.results result) := by
  refine ⟨fun err s => execute_eq_error_iff hstart hclock, fun hnone => ?_⟩
  cases hexecute : (e.execute config r hz).1 with
  | error err =>
    obtain ⟨f, _, hmeets⟩ :=
      (execute_eq_error_iff (s := (e.execute config r hz).2) hstart hclock).mp
        (Prod.ext hexecute rfl)
    exact absurd hmeets (hnone f _)
  | ok result =>
    rw [execute_of_not_meets hnone] at hexecute ⊢
    obtain ⟨hplays, haccount⟩ := plays_of_execute_eq_ok hexecute
    exact ⟨result, rfl, hplays, account_tallies haccount⟩

end Hazards

/-- Windows that cannot be released without an error, a callback that raises, an executor that
raises nothing but a kind, one that answers nothing and one that answers a number. -/
def unrulyRun : Run Part Unit :=
  let raising : Part := { answer := .error ⟨"RuntimeError", ""⟩ }
  let window (label : String) : Value := .handle (.named label)
  Part.stage
    [("navigate",
        { goOn := some true
          answer := .ok (.result ⟨"navigate", 0, true, 0, none,
            .map [(.text "newWindow", window "second")]⟩) }),
      ("raise", raising), ("nothing", { answer := .ok (.value .null) }),
      ("number", { answer := .ok (.value (.int 7)) })]
    { window := window "first" }
    { cells :=
        [(.named "first", ⟨.object, [], [("close", raising)]⟩),
          (.named "second", ⟨.mapping, [(.text "requestResult", .text "no object")], []⟩)] }

def unrulyConfig : Config := .ofNames ["navigate", "raise", "nothing", "number", "unknown"]

/-- An engine whose callback raises each time. -/
def unrulyEngine : Engine Part Unit :=
  { Part.engine with onProgress := some { answer := .error ⟨"ValueError", "no progress"⟩ } }

theorem unruly_run_returns :
    let ended := unrulyEngine.execute unrulyConfig unrulyRun .ofWriting
    Clock.InRange 1000.0 ended.2.scene.clock ∧
      ∃ result, ended.1 = .ok result ∧ Tallies 5 ended.2.scene.context.results result := by
  have hclock : Clock.InRange (startInstant unrulyRun.scene)
      (unrulyEngine.execute unrulyConfig unrulyRun .ofWriting).2.scene.clock :=
    ⟨⟨_, rfl⟩, ⟨_, rfl⟩⟩
  obtain ⟨_, hreturns⟩ := execute_raises_at_hazards_only (.inl rfl) hclock
  obtain ⟨result, hreturn, _, htallies⟩ := hreturns fun _ _ =>
    not_meets rfl (fun _ => rfl) (fun _ _ => rfl) fun _ _ => rfl
  exact ⟨hclock, result, hreturn, htallies⟩

/-- Settings that pass a set of records through. A command cannot be changed, so it is a good member
of a set, but the mapping that it is written out as is not. -/
def recordSettings : Value :=
  .ofFields [("x", .set [.record "Command" [(⟨"command", "command", .given⟩, .text "a")]])]

/-- A valid configuration whose settings have no document does not come to its first command. -/
theorem record_set_counterexample :
    ∃ config, Config.check unrulyRun.scene.store.lookup
        (.ofFields [("version", .text "1"), ("settings", recordSettings),
          ("commands", .list [.ofFields [("command", .text "nothing")]])]) = .pass config ∧
      let ended := unrulyEngine.execute config unrulyRun .ofWriting
      unrulyRun.scene.context.startTime = .null ∧ Clock.InRange 1000.0 ended.2.scene.clock ∧
        ended.1 = .error (.raised ⟨"TypeError", "unhashable type: 'dict'"⟩) ∧
        ended.2.trace = [] :=
  ⟨_, rfl, rfl, ⟨⟨_, rfl⟩, ⟨_, rfl⟩⟩, rfl, rfl⟩

end Engine

end Playbook
