import Playbook.Proofs.Engine.Accounting
import Playbook.Proofs.Engine.Events

/-!
Runs that stop at the first failure. Where nobody looks at the flag that says whether to go on, a
run does the same with the flag set and with it cleared, command for command, until a command fails.
There the run that stops has ended, and the other one goes on from where it has ended.
-/

namespace Playbook

variable {κ σ : Type}

/-- The scene with the flag of its context set or cleared. -/
def Scene.goingOn (b : Bool) (s : Scene κ σ) : Scene κ σ :=
  { s with context := { s.context with continueOnError := .bool b } }

def Run.goingOn (b : Bool) (r : Run κ σ) : Run κ σ := { r with scene := r.scene.goingOn b }

def Attempt.goingOn (b : Bool) (a : Attempt κ σ) : Attempt κ σ :=
  { a with
    opened := a.opened.goingOn b
    announced := a.announced.goingOn b
    dispatched := a.dispatched.goingOn b
    recorded := a.recorded.goingOn b
    closed := a.closed.goingOn b }

/-- No collaborator goes by the flag or assigns it. -/
structure Collaborators.IgnoresFlag (c : Collaborators κ σ) : Prop where
  execute : ∀ k window command index s b,
    c.execute k window command index (Scene.goingOn b s) =
      Prod.map id (Scene.goingOn b) (c.execute k window command index s)
  notify : ∀ k progress s b,
    c.notify k progress (Scene.goingOn b s) = Prod.map id (Scene.goingOn b) (c.notify k progress s)
  invoke : ∀ k owner name arguments s b,
    c.invoke k owner name arguments (Scene.goingOn b s) =
      Prod.map id (Scene.goingOn b) (c.invoke k owner name arguments s)

namespace Engine

variable {e : Engine κ σ}

/-! ### The same step under either flag -/

section Steps

variable (hflag : e.collaborators.IgnoresFlag) (b : Bool)
include hflag

theorem emitProgress_goingOn (total index : Nat) (command : String) (status : Status)
    (start : Value) (r : Run κ σ) :
    e.emitProgress total index command status start (r.goingOn b) =
      Prod.map id (Run.goingOn b) (e.emitProgress total index command status start r) := by
  unfold emitProgress
  cases e.callback? with
  | none => rfl
  | some callback =>
    have hclock : (r.goingOn b).scene.clock = r.scene.clock := rfl
    rw [hclock]
    cases elapsedSince start r.scene.clock with
    | error fault => rfl
    | ok elapsed =>
      let p : Progress := { total, current := index, command, status, elapsed }
      have hcall := hflag.notify callback p r.scene b
      exact congrArg (fun made => ((.ok () : Except Clock.Fault Unit),
        (⟨made.2, r.trace ++ [.progress p]⟩ : Run κ σ))) hcall

theorem dispatch_goingOn (command : Command) (index : Nat) (r : Run κ σ) :
    e.dispatch command index (r.goingOn b) =
      Prod.map id (Run.goingOn b) (e.dispatch command index r) := by
  cases hexecutor : (r.scene.registries.get e.registry).get? command.name with
  | none =>
    have hother : ((r.goingOn b).scene.registries.get e.registry).get? command.name = none :=
      hexecutor
    rw [dispatch_of_none hexecutor, dispatch_of_none hother]
    rfl
  | some executor =>
    have hother : ((r.goingOn b).scene.registries.get e.registry).get? command.name =
        some executor := hexecutor
    have hcall := hflag.execute executor r.scene.context.window command index r.scene b
    rw [dispatch_of_some hexecutor, dispatch_of_some hother]
    exact congrArg (fun made => (answered command index made,
      (⟨made.2, r.trace ++ [.call command.name index r.scene.context.window]⟩ : Run κ σ))) hcall

theorem callRelease_goingOn (m : Option (Release κ)) (r : Run κ σ) :
    e.callRelease m (r.goingOn b) = (e.callRelease m r).goingOn b := by
  cases m with
  | none => rfl
  | some m =>
    have hcall := hflag.invoke m.routine m.owner m.name [] r.scene b
    exact congrArg (fun made => (⟨made.2, r.trace ++ [.method m.owner m.name []]⟩ : Run κ σ)) hcall

omit hflag in
theorem adoptState_goingOn (new : Value) (r : Run κ σ) :
    adoptState new (r.goingOn b) = (adoptState new r).goingOn b := by
  have hstore : (r.goingOn b).scene.store = r.scene.store := rfl
  have hstate : (r.goingOn b).scene.context.requestResult = r.scene.context.requestResult := rfl
  simp only [adoptState, hstore, hstate]
  split
  · rfl
  · split
    · cases r.scene.store.setField? (r.scene.store.sessionState new) "remapper"
        (r.scene.store.field r.scene.context.requestResult "remapper") <;> rfl
    · rfl

theorem record_goingOn (a : Attempt κ σ) :
    e.record a.command a.result (a.dispatched.goingOn b) =
      (e.record a.command a.result a.dispatched).goingOn b := by
  cases hwindow : e.newWindow? a with
  | none =>
    have hother : e.newWindow? (a.goingOn b) = none := hwindow
    rw [record_of_none hwindow]
    exact record_of_none hother
  | some w =>
    have hother : e.newWindow? (a.goingOn b) = some w := hwindow
    have hfreed : e.freed (a.goingOn b) = (e.freed a).goingOn b := by
      rw [freed_eq, freed_eq]
      exact callRelease_goingOn hflag b (e.releaser? a) a.noted
    have hrecord := record_of_some hother
    rw [hfreed] at hrecord
    rw [record_of_some hwindow, ← adoptState_goingOn]
    exact hrecord

end Steps

variable {start : Value} {total index : Nat} {commands : List Command} {r r' : Run κ σ}
  {row : List (Attempt κ σ)} {outcome : Except Escape Unit} {a : Attempt κ σ}

/-- An attempt comes to the same under either flag, as far as it comes. -/
theorem Reaches.goingOn (reached : e.Reaches start total a) (hflag : e.collaborators.IgnoresFlag)
    (b : Bool) : e.Reaches start total (a.goingOn b) where
  announce := by
    have h := emitProgress_goingOn hflag b total a.index a.command.name .running start a.opened
    rw [reached.announce] at h
    exact h
  dispatch := by
    have h := dispatch_goingOn hflag b a.command a.index a.announced
    rw [reached.dispatch] at h
    exact h
  record := by
    have h := record_goingOn hflag b a
    rw [reached.record] at h
    exact h

theorem Makes.goingOn (made : e.Makes start total a) (hflag : e.collaborators.IgnoresFlag)
    (b : Bool) : e.Makes start total (a.goingOn b) := by
  have hreached := made.reaches.goingOn hflag b
  have hreport := emitProgress_goingOn hflag b total a.index a.command.name a.status start
    a.recorded
  rw [made.report] at hreport
  exact ⟨hreached.announce, hreached.dispatch, hreached.record, hreport⟩

theorem Breaks.goingOn {command : Command} {f : Clock.Fault}
    (h : e.Breaks start total index command r f r') (hflag : e.collaborators.IgnoresFlag)
    (b : Bool) : e.Breaks start total index command (r.goingOn b) f (r'.goingOn b) := by
  cases h with
  | announce failed =>
    have hannounce := emitProgress_goingOn hflag b total index command.name .running start r
    rw [failed] at hannounce
    exact .announce hannounce
  | @dispatch announced _ announce failed =>
    have hannounce := emitProgress_goingOn hflag b total index command.name .running start r
    have hdispatch := dispatch_goingOn hflag b command index announced
    rw [announce] at hannounce
    rw [failed] at hdispatch
    exact .dispatch hannounce hdispatch
  | @report a reached hindex hcommand hopened failed =>
    have hreport := emitProgress_goingOn hflag b total index command.name a.status start a.recorded
    rw [failed] at hreport
    exact .report (reached.goingOn hflag b) hindex hcommand (congrArg (Run.goingOn b) hopened)
      hreport

/-! ### Runs under either flag -/

theorem Makes.closed_goingOn (made : e.Makes start total a)
    (hflag : e.collaborators.IgnoresFlag) {b : Bool} (h : a.opened.goingOn b = a.opened) :
    a.closed.goingOn b = a.closed := by
  -- The attempt under the flag that is set already is the attempt itself.
  have hattempt := (made.goingOn hflag b).attempt_eq
  have hopened : (a.goingOn b).opened = a.opened := h
  rw [hopened] at hattempt
  exact congrArg Prod.snd (hattempt.symm.trans made.attempt_eq)

theorem halts_goingOn_false (a : Attempt κ σ) :
    (a.goingOn false).Halts ↔ a.result.success = false :=
  ⟨fun h => h.1, fun h => ⟨h, rfl⟩⟩

theorem not_halts_of_closed_goingOn (h : a.closed.goingOn true = a.closed) : ¬ a.Halts := by
  intro hstop
  have hset : a.closed.scene.context.continueOnError = .bool true := by
    rw [← h]
    rfl
  have hfalse := hstop.2
  rw [hset] at hfalse
  cases hfalse

/-- A run whose flag is set, and the run of the same commands with the flag cleared. Without a
failure they are the same run; after its first failure the one with the cleared flag has ended. -/
theorem Goes.goingOn_false (h : e.Goes start total index commands r row outcome r')
    (hflag : e.collaborators.IgnoresFlag) (hset : r.goingOn true = r) :
    ((∀ a ∈ row, a.result.success = true) →
      e.Goes start total index commands (r.goingOn false) (row.map (Attempt.goingOn false)) outcome
        (r'.goingOn false)) ∧
    ∀ before b after, row = before ++ b :: after → (∀ a ∈ before, a.result.success = true) →
      b.result.success = false →
        e.Goes start total index commands (r.goingOn false)
          ((before ++ [b]).map (Attempt.goingOn false)) (.ok ()) (b.closed.goingOn false) := by
  -- By induction on how the run with the set flag goes. That the flag is still set after every
  -- attempt is what carries it: with the flag set no attempt halts, with the flag cleared one that
  -- fails does.
  induction h with
  | through index r => exact ⟨fun _ => .through index _, by simp⟩
  | fault failed =>
    refine ⟨fun _ => ?_, by simp⟩
    exact .fault ((breaks_of_attempt failed).goingOn hflag false).attempt_eq
  | halt made stop => exact absurd stop (not_halts_of_closed_goingOn (made.closed_goingOn hflag hset))
  | @next a rest later outcome r' made _ _ ih =>
    have hclosed := made.closed_goingOn hflag hset
    have hmade := made.goingOn hflag false
    obtain ⟨hall, hcut⟩ := ih hclosed
    refine ⟨?_, ?_⟩
    · intro hsuccess
      have hfirst : a.result.success = true := hsuccess a (by simp)
      have hon : ¬ (a.goingOn false).Halts := by
        rw [halts_goingOn_false, hfirst]
        decide
      exact .next hmade hon (hall fun b hb => hsuccess b (by simp [hb]))
    · intro before b after hrow hbefore hfails
      cases before with
      | nil =>
        obtain ⟨rfl, _⟩ := List.cons.inj hrow
        exact .halt hmade ((halts_goingOn_false a).mpr hfails)
      | cons first before =>
        obtain ⟨rfl, hrest⟩ := List.cons.inj hrow
        have hfirst : a.result.success = true := hbefore a (by simp)
        have hon : ¬ (a.goingOn false).Halts := by
          rw [halts_goingOn_false, hfirst]
          decide
        exact .next hmade hon
          (hcut before b after hrest (fun c hc => hbefore c (by simp [hc])) hfails)

theorem prepare_goingOn (config : Config) (r : Run κ σ) (b c : Bool) :
    (prepare config (r.goingOn b)).goingOn c = prepare config (r.goingOn c) := rfl

/-- Where the run that stops is cut off from the run that goes on: after the attempt `b`, which is
the first one to fail. -/
structure CutAfter (e : Engine κ σ) (config : Config) (r : Run κ σ)
    (before : List (Attempt κ σ)) (b : Attempt κ σ) (after : List (Attempt κ σ)) : Prop where
  /-- It makes the attempts of the other one up to there. -/
  attempts : e.attempts config (r.goingOn false) = (before ++ [b]).map (Attempt.goingOn false)
  ends : e.Plays config (r.goingOn false) (e.attempts config (r.goingOn false)) (.ok ())
    (e.execute config (r.goingOn false)).2
  /-- The flag apart, it ends in the run in which the other one has closed the attempt. -/
  closed : (e.execute config (r.goingOn false)).2 = b.closed.goingOn false
  /-- The other one has nothing between that and its next attempt, or its end. -/
  next : ∀ a later, after = a :: later → a.opened = b.closed
  last : after = [] → ∀ account, (e.execute config (r.goingOn true)).1 = .ok account →
    (e.execute config (r.goingOn true)).2 = b.closed
  entries : ∀ account, (e.execute config (r.goingOn false)).1 = .ok account →
    account.results = r.scene.context.results ++ (before ++ [b]).map Attempt.result
  otherEntries : ∀ account, (e.execute config (r.goingOn true)).1 = .ok account →
    account.results = r.scene.context.results ++ (before ++ b :: after).map Attempt.result
  log : (e.execute config (r.goingOn false)).2.trace <+: (e.execute config (r.goingOn true)).2.trace
  /-- The last that happens is that the failure is reported. -/
  reported : ∀ callback, e.callback? = some callback → ∃ events elapsed,
    (e.execute config (r.goingOn false)).2.trace = events ++
      [.progress
        { total := config.commands.length, current := before.length, command := b.command.name
          status := .error, elapsed }]

theorem results_of_execute_eq_ok {config : Config} {account : RunResult}
    (hleave : e.collaborators.Keeps fun s => s.context.results)
    (h : (e.execute config r).1 = .ok account) :
    account.results =
      r.scene.context.results ++ (e.attempts config r).map Attempt.result := by
  obtain ⟨hplays, haccount⟩ := plays_of_execute_eq_ok h
  rw [(account_tallies haccount).results, (Goes.results hplays hleave).2 rfl, results_prepare]

theorem Makes.reported (made : e.Makes start total a) {callback : κ}
    (hcallback : e.callback? = some callback) :
    ∃ events elapsed, a.closed.trace = events ++
      [.progress
        { total, current := a.index, command := a.command.name, status := a.status, elapsed }] := by
  have hreport := trace_emitProgress e total a.index a.command.name a.status start a.recorded
  have hmade := made.report
  unfold emitProgress at hmade
  rw [made.report] at hreport
  rw [hcallback] at hmade
  cases helapsed : elapsedSince start a.recorded.scene.clock with
  | error fault =>
    simp only [helapsed] at hmade
    cases (Prod.mk.inj hmade).1
  | ok elapsed =>
    refine ⟨a.recorded.trace, elapsed, ?_⟩
    rw [hreport, notice?, hcallback, helapsed]
    rfl

theorem Plays.goingOn_false {config : Config}
    (h : e.Plays config (r.goingOn true) row outcome r') (hflag : e.collaborators.IgnoresFlag) :
    ((∀ a ∈ row, a.result.success = true) →
      e.Plays config (r.goingOn false) (row.map (Attempt.goingOn false)) outcome
        (r'.goingOn false)) ∧
    ∀ before b after, row = before ++ b :: after → (∀ a ∈ before, a.result.success = true) →
      b.result.success = false →
        e.Plays config (r.goingOn false) ((before ++ [b]).map (Attempt.goingOn false)) (.ok ())
          (b.closed.goingOn false) := by
  have hset : (prepare config (r.goingOn true)).goingOn true = prepare config (r.goingOn true) :=
    prepare_goingOn config r true true
  have hgoes := Goes.goingOn_false h hflag hset
  rw [prepare_goingOn] at hgoes
  exact hgoes

/-- The run that stops is cut off after the first failure of the one that goes on. -/
theorem Plays.cutAfter {config : Config} {before after : List (Attempt κ σ)} {b : Attempt κ σ}
    (h : e.Plays config (r.goingOn true) (before ++ b :: after) outcome
      (e.execute config (r.goingOn true)).2)
    (hflag : e.collaborators.IgnoresFlag)
    (hleave : e.collaborators.Keeps fun s => s.context.results)
    (hbefore : ∀ a ∈ before, a.result.success = true) (hfails : b.result.success = false) :
    e.CutAfter config r before b after := by
  have hstops := (h.goingOn_false hflag).2 before b after rfl hbefore hfails
  obtain ⟨hattempts, hexecute⟩ := hstops.execute_eq
  obtain ⟨hrow, hother⟩ := h.execute_eq
  have hclosed : (e.execute config (r.goingOn false)).2 = b.closed.goingOn false :=
    congrArg Prod.snd hexecute
  have htrace : (e.execute config (r.goingOn false)).2.trace = b.closed.trace := by
    rw [hclosed]
    rfl
  have hmem : b ∈ before ++ b :: after := by simp
  have hindex : b.index = before.length := by rw [Goes.index_eq h rfl, Nat.zero_add]
  have hentries : (e.attempts config (r.goingOn false)).map Attempt.result =
      (before ++ [b]).map Attempt.result := by
    rw [← hattempts, List.map_map]
    rfl
  obtain ⟨hnext, hlast⟩ := Goes.opened_closed h
  refine
    { attempts := hattempts.symm
      ends := by rw [← hattempts, hclosed]; exact hstops
      closed := hclosed
      next := ?_
      last := ?_
      entries := ?_
      otherEntries := ?_
      log := ?_
      reported := ?_ }
  · rintro a later rfl
    exact hnext before b a later rfl
  · rintro rfl account hreturn
    refine hlast before b rfl ?_
    rw [hother] at hreturn
    cases outcome with
    | error f => cases hreturn
    | ok done => rfl
  · intro account hreturn
    rw [← hentries]
    exact results_of_execute_eq_ok hleave hreturn
  · intro account hreturn
    rw [hrow]
    exact results_of_execute_eq_ok hleave hreturn
  · rw [htrace]
    exact (Goes.trace_extends h).2 b hmem
  · intro callback hcallback
    obtain ⟨events, elapsed, hreported⟩ := (Goes.made h b hmem).reported hcallback
    refine ⟨events, elapsed, ?_⟩
    rw [htrace, hreported, hindex]
    simp only [Attempt.status, hfails, Bool.false_eq_true, if_false]

/-- Stopping at the first failure truncates going on. Let a configuration be run twice from the same
scene, once with the flag cleared and once with the flag set, by collaborators that do not look at
the flag and leave flag and results alone. Without a failure both runs make the same attempts, come
to the same and leave the same behind, the flag apart. Otherwise the run that stops is the other one
cut off after the report of its first failure. -/
theorem stopping_run_truncates (config : Config) (r : Run κ σ)
    (hflag : e.collaborators.IgnoresFlag)
    (hleave : e.collaborators.Keeps fun s => s.context.results) :
    let stopping := e.execute config (r.goingOn false)
    let goingOn := e.execute config (r.goingOn true)
    let row := e.attempts config (r.goingOn true)
    ((∀ a ∈ row, a.result.success = true) →
        e.attempts config (r.goingOn false) = row.map (Attempt.goingOn false) ∧
          stopping.1 = goingOn.1 ∧ stopping.2 = goingOn.2.goingOn false) ∧
      ∀ before b after, row = before ++ b :: after →
        (∀ a ∈ before, a.result.success = true) → b.result.success = false →
          e.CutAfter config r before b after := by
  intro stopping goingOn row
  obtain ⟨outcome, hplays, hresult⟩ := plays_attempts e config (r.goingOn true)
  refine ⟨?_, ?_⟩
  · intro hsuccess
    obtain ⟨hrow, hexecute⟩ := ((hplays.goingOn_false hflag).1 hsuccess).execute_eq
    refine ⟨hrow.symm, ?_, congrArg Prod.snd hexecute⟩
    exact (congrArg Prod.fst hexecute).trans hresult.symm
  · intro before b after hrow hbefore hfails
    have hsplit : e.Plays config (r.goingOn true) (before ++ b :: after) outcome goingOn.2 := by
      rw [← hrow]
      exact hplays
    exact hsplit.cutAfter hflag hleave hbefore hfails

/-- Collaborators that remember how often an executor was called: an executor is a row of answers,
one for each call. -/
def scripted : Collaborators (List (Except Failure Outcome)) Nat where
  isAsync _ := false
  execute answers _ _ _ s :=
    ((answers[s.memory]?).getD (.error ⟨"IndexError", "no answer"⟩),
      { s with memory := s.memory + 1 })
  notify _ _ s := (.error ⟨"ValueError", "not heard"⟩, s)
  invoke _ _ _ _ s := (.ok (), s)

/-- Three calls of one executor, the second of which fails. -/
def scriptedRun : Run (List (Except Failure Outcome)) Nat where
  scene :=
    { clock := 1000.0
      store := .empty
      registries :=
        ⟨⟨[("step",
          [.ok (.result ⟨"step", 0, true, 0, none, .null⟩), .error ⟨"KeyError", "lost"⟩,
            .ok (.result ⟨"step", 2, true, 0, none, .null⟩)])]⟩, []⟩
      context := {}
      memory := 0 }
  trace := []

def scriptedEngine : Engine (List (Except Failure Outcome)) Nat :=
  { collaborators := scripted, onProgress := some [] }

def scriptedConfig : Config := .ofNames ["step", "step", "step"]

theorem scripted_run_truncates :
    ∃ first second third,
      scriptedEngine.attempts scriptedConfig (scriptedRun.goingOn true) = [first, second, third] ∧
        [first, second, third].map (fun a => a.result.success) = [true, false, true] ∧
        scriptedEngine.CutAfter scriptedConfig scriptedRun [first] second [third] := by
  have hflag : scriptedEngine.collaborators.IgnoresFlag :=
    ⟨fun _ _ _ _ _ _ => rfl, fun _ _ _ _ => rfl, fun _ _ _ _ _ _ => rfl⟩
  have hleave : scriptedEngine.collaborators.Keeps fun s => s.context.results :=
    ⟨fun _ _ _ _ _ => rfl, fun _ _ _ => rfl, fun _ _ _ _ _ => rfl⟩
  obtain ⟨first, second, third, hrow⟩ : ∃ first second third,
      scriptedEngine.attempts scriptedConfig (scriptedRun.goingOn true) = [first, second, third] :=
    ⟨_, _, _, rfl⟩
  have hsuccess : (scriptedEngine.attempts scriptedConfig (scriptedRun.goingOn true)).map
      (fun a => a.result.success) = [true, false, true] := by decide +kernel
  rw [hrow] at hsuccess
  obtain ⟨hfirst, hsecond, _⟩ : first.result.success = true ∧ second.result.success = false ∧
      third.result.success = true := by simpa using hsuccess
  obtain ⟨_, hcut⟩ := stopping_run_truncates scriptedConfig scriptedRun hflag hleave
  exact ⟨first, second, third, hrow, hsuccess,
    hcut [first] second [third] hrow (by simpa using hfirst) hsecond⟩

end Engine

end Playbook
