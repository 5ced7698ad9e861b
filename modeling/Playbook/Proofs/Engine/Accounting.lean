import Playbook.Proofs.Engine.Replacement

/-!
What a run adds up to. Every attempt leaves exactly one result, in the order of the commands, and
the account of a run is the tally of what is recorded at its end. A failed attempt after which the
context does not say to go on is the last one; a run that stops short of its last command stops at
such an attempt.
-/

namespace Playbook

variable {κ σ : Type}

namespace Engine

/-- A row of attempts at the first of some commands, with one result for each recorded behind those
that were there before. -/
structure Records (commands : List Command) (prior : List CommandResult)
    (row : List (Attempt κ σ)) : Prop where
  indices : row.map Attempt.index = List.range row.length
  tried : row.map Attempt.command = commands.take row.length
  one_le : 1 ≤ row.length
  length_le : row.length ≤ commands.length
  /-- When a command is dispatched, just the results of the attempts before it are recorded. -/
  results_before : ∀ before a after, row = before ++ a :: after →
    a.index = before.length ∧
      a.announced.scene.context.results = prior ++ before.map Attempt.result

/-- When a row of attempts ends. -/
structure EndsAtHalt (commands : List Command) (row : List (Attempt κ σ)) : Prop where
  /-- An attempt that halts is the last one. -/
  last : ∀ before a after, row = before ++ a :: after → a.Halts → after = []
  /-- Commands are left over just when an attempt before that at the last command halts. -/
  early_iff : row.length < commands.length ↔
    ∃ before a after, row = before ++ a :: after ∧ a.Halts ∧ before.length + 1 < commands.length

/-- An account that counts some results, of a run over a number of commands. -/
structure Tallies (commands : Nat) (entries : List CommandResult) (account : RunResult) : Prop where
  results : account.results = entries
  total : account.totalCommands = commands
  successes : account.successCount = entries.countP CommandResult.success
  errors : account.errorCount = entries.countP fun entry => !entry.success
  success_iff : account.success = true ↔ account.errorCount = 0

theorem account_tallies {config : Config} {start : Value} {scene : Scene κ σ}
    {result : RunResult} (h : account config start scene = .ok result) :
    Tallies config.commands.length scene.context.results result := by
  unfold account at h
  cases helapsed : elapsedSince start scene.clock with
  | error f => simp [helapsed] at h
  | ok duration =>
    simp only [helapsed] at h
    obtain rfl := Except.ok.inj h
    have hsplit := scene.context.results.length_eq_countP_add_countP CommandResult.success
    have herrors : scene.context.results.length -
        (scene.context.results.filter CommandResult.success).length =
          scene.context.results.countP fun entry => !entry.success := by
      rw [← List.countP_eq_length_filter]
      simp only [Bool.not_eq_true, Bool.decide_eq_false] at hsplit
      omega
    exact
      { results := rfl
        total := rfl
        successes := by rw [List.countP_eq_length_filter]
        errors := by rw [← herrors]
        success_iff := by simp only [beq_iff_eq]; omega }

/-- Nothing failed exactly when the account says that the run succeeded. -/
theorem Tallies.success_iff_all {commands : Nat} {entries : List CommandResult}
    {account : RunResult} (h : Tallies commands entries account) :
    account.success = true ↔ ∀ entry ∈ entries, entry.success = true := by
  rw [h.success_iff, h.errors]
  simp [List.countP_eq_zero]

section Results

variable {e : Engine κ σ} {start : Value} {total : Nat} {a : Attempt κ σ}

/-- Recording adds the result and takes none away. -/
theorem results_record (hleave : e.collaborators.Keeps fun s => s.context.results)
    (a : Attempt κ σ) :
    (e.record a.command a.result a.dispatched).scene.context.results =
      a.dispatched.scene.context.results ++ [a.result] := by
  cases hwindow : e.newWindow? a with
  | none =>
    rw [record_of_none hwindow]
    rfl
  | some w =>
    have hfreed := freed_keeps hleave a
    rw [record_of_some hwindow, context_adoptState]
    exact hfreed

theorem Makes.results_closed (made : e.Makes start total a)
    (hleave : e.collaborators.Keeps fun s => s.context.results) :
    a.closed.scene.context.results = a.opened.scene.context.results ++ [a.result] := by
  calc
    a.closed.scene.context.results = a.recorded.scene.context.results := made.closed_keeps hleave
    _ = a.dispatched.scene.context.results ++ [a.result] := by
      rw [← made.record, results_record hleave]
    _ = a.opened.scene.context.results ++ [a.result] := by
      rw [made.dispatched_keeps hleave]

/-- Through any run, the results at an attempt are the first ones and those of the attempts
before it. -/
theorem Goes.results {index : Nat} {commands : List Command} {r r' : Run κ σ}
    {row : List (Attempt κ σ)} {outcome : Except Escape Unit}
    (h : e.Goes start total index commands r row outcome r')
    (hleave : e.collaborators.Keeps fun s => s.context.results) :
    (∀ before a after, row = before ++ a :: after →
      a.opened.scene.context.results =
        r.scene.context.results ++ before.map Attempt.result) ∧
    (outcome = .ok () →
      r'.scene.context.results = r.scene.context.results ++ row.map Attempt.result) := by
  have hfold (row : List (Attempt κ σ)) (prior : List CommandResult) :
      row.foldl (fun results a => results ++ [a.result]) prior =
        prior ++ row.map Attempt.result := by
    induction row generalizing prior with
    | nil => simp
    | cons a rest ih => simp [ih]
  obtain ⟨hopened, hend⟩ := h.fold (fun r => r.scene.context.results)
    (fun results a => results ++ [a.result]) fun a _ made => made.results_closed hleave
  refine ⟨?_, ?_⟩
  · intro before a after hrow
    rw [hopened before a after hrow, hfold]
  · intro hok
    rw [hend hok, hfold]

end Results

variable {e : Engine κ σ} {config : Config} {r : Run κ σ} {result : RunResult}

theorem results_prepare (config : Config) (r : Run κ σ) :
    (prepare config r).scene.context.results = r.scene.context.results := rfl

/-- The attempts of a run are recorded one by one, whether or not the run comes to its end. -/
theorem Plays.records {row : List (Attempt κ σ)} {r' : Run κ σ}
    (h : e.Plays config r row (.ok ()) r') (hcommands : config.commands ≠ [])
    (hleave : e.collaborators.Keeps fun s => s.context.results) :
    Records config.commands r.scene.context.results row where
  indices := by rw [Goes.indices_eq h, List.range_eq_range']
  tried := Goes.commands_eq h
  one_le := by
    have hsome : 0 < config.commands.length := List.length_pos_iff.mpr hcommands
    rcases Goes.tries_all_or_halts h rfl with hall | ⟨before, a, hrow, _⟩
    · omega
    · rw [hrow]
      simp
  length_le := Goes.length_le h
  results_before before a after hrow := by
    have made := Goes.made h a (by simp [hrow])
    refine ⟨?_, ?_⟩
    · rw [Goes.index_eq h hrow, Nat.zero_add]
    · rw [made.announced_keeps hleave, (Goes.results h hleave).1 before a after hrow,
        results_prepare]

theorem Plays.endsAtHalt {row : List (Attempt κ σ)} {r' : Run κ σ}
    (h : e.Plays config r row (.ok ()) r') : EndsAtHalt config.commands row where
  last _ _ _ hrow hstop := Goes.halts_last h hrow hstop
  early_iff := by
    constructor
    · intro hearly
      rcases Goes.tries_all_or_halts h rfl with hall | ⟨before, a, hrow, hstop⟩
      · omega
      · refine ⟨before, a, [], hrow, hstop, ?_⟩
        simpa [hrow] using hearly
    · rintro ⟨before, a, after, hrow, hstop, hshort⟩
      have hlast := Goes.halts_last h hrow hstop
      simpa [hrow, hlast] using hshort

/-- The accounting of a run. Its results are those that were there before and one for each
attempt, the attempts are the first commands in their order, and each is dispatched with just the
results of those before it recorded. The run ends early exactly when an attempt before that at the
last command fails and is not to be gone on from, and such an attempt is always the last one. The
account counts what is recorded; without earlier results it says that the run succeeded exactly
when every command was attempted and succeeded. Nobody but the executors is handed the context, so
that its results are left alone is a matter of the executors in practice. -/
theorem run_is_accounted (hcommands : config.commands ≠ [])
    (hleave : e.collaborators.Keeps fun s => s.context.results)
    (hreturn : (e.execute config r).1 = .ok result) :
    let row := e.attempts config r
    let entries := r.scene.context.results ++ row.map Attempt.result
    e.Plays config r row (.ok ()) (e.execute config r).2 ∧
      Records config.commands r.scene.context.results row ∧
      (e.execute config r).2.scene.context.results = entries ∧
      EndsAtHalt config.commands row ∧
      Tallies config.commands.length entries result ∧
      (r.scene.context.results = [] →
        (result.success = true ↔
          row.length = config.commands.length ∧ ∀ a ∈ row, a.result.success = true)) := by
  intro row entries
  obtain ⟨hplays, haccount⟩ := plays_of_execute_eq_ok hreturn
  have hresults : (e.execute config r).2.scene.context.results = entries := by
    rw [(Goes.results hplays hleave).2 rfl, results_prepare]
  have htallies : Tallies config.commands.length entries result := by
    rw [← hresults]
    exact account_tallies haccount
  refine ⟨hplays, hplays.records hcommands hleave, hresults, hplays.endsAtHalt, htallies, ?_⟩
  intro hprior
  have hentries : entries = row.map Attempt.result := by
    simp only [entries, hprior, List.nil_append]
  rw [htallies.success_iff_all, hentries, List.forall_mem_map]
  constructor
  · intro hall
    refine ⟨?_, hall⟩
    rcases Goes.tries_all_or_halts hplays rfl with htried | ⟨before, a, hrow, hstop⟩
    · exact htried
    · -- An attempt that halts has failed, so none did.
      have hmem : a ∈ row := by
        simp only [row, hrow, List.mem_append, List.mem_singleton, or_true]
      have hfailed := hstop.1
      rw [hall a hmem] at hfailed
      cases hfailed
  · exact fun h => h.2

/-- Failures that are gone on from, an unknown name, a result given as a mapping and a failure that
ends the run, behind a result of an earlier one. -/
def mixedRun : Run Part Unit :=
  Part.stage
    [("insist", { goOn := some true, answer := .error ⟨"ValueError", "no"⟩ }),
      ("open",
        { answer := .ok (.value (.ofFields [("command", .text "open"), ("commandIndex", .int 2),
            ("success", .bool true)])) }),
      ("surrender", { goOn := some false, answer := .ok (.value .null) })]
    { results := [⟨"earlier", 0, true, 3, none, .null⟩] }
    .empty

def mixedConfig : Config := .ofNames ["insist", "unknown", "open", "surrender", "never"]

theorem mixed_run_is_accounted :
    let row := Part.engine.attempts mixedConfig mixedRun
    ∃ result, (Part.engine.execute mixedConfig mixedRun).1 = .ok result ∧
      row.map (fun a => a.result.success) = [false, false, true, false] ∧
      Records mixedConfig.commands mixedRun.scene.context.results row ∧
      EndsAtHalt mixedConfig.commands row ∧
      Tallies 5 (mixedRun.scene.context.results ++ row.map Attempt.result) result := by
  obtain ⟨result, hreturn⟩ :
      ∃ result, (Part.engine.execute mixedConfig mixedRun).1 = .ok result := ⟨_, rfl⟩
  have hcommands : mixedConfig.commands ≠ [] := by simp [mixedConfig, Config.ofNames]
  have hleave : Part.engine.collaborators.Keeps fun s => s.context.results :=
    Part.collaborators_keeps fun _ _ => rfl
  obtain ⟨_, hrecords, _, hends, htallies, _⟩ := run_is_accounted hcommands hleave hreturn
  exact ⟨result, hreturn, by decide +kernel, hrecords, hends, htallies⟩

/-- A failure at the last command ends the run as well, and yet no command is left over: that some
attempt failed and was not gone on from does not mean that the run ended early. -/
theorem failing_last_command_counterexample :
    let config := Config.ofNames ["unknown"]
    let row := Part.engine.attempts config (Part.stage [] {} .empty)
    (∃ result, (Part.engine.execute config (Part.stage [] {} .empty)).1 = .ok result) ∧
      ¬ (row.length < config.commands.length ↔ ∃ a ∈ row, a.Halts) :=
  ⟨⟨_, rfl⟩, by decide +kernel⟩

end Engine

end Playbook
