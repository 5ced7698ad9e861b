import Playbook.Proofs.Engine.Attempts

/-!
Runs amid hazards. What is raised where nothing catches it cuts a run short and changes nothing of
it before. So a run amid hazards is the run without them up to the first hazard that it meets: the
settings that cannot be written out, the callback that cannot be asked whether it counts, a failure
that cannot be put on record, or the flag to go on that cannot be asked after a failure.
-/

namespace Playbook

variable {κ σ : Type}

namespace Hazards

/-- The hazards that the commands from a position on can meet, with what is raised and where that
leaves the run. Up to there the run goes as it does without hazards. -/
inductive Hits (hz : Hazards κ σ) (e : Engine κ σ) (start : Value) (total : Nat) :
    Nat → List Command → Run κ σ → Failure → Run κ σ → Prop
  /-- The callback cannot be asked whether it counts when a command is announced. -/
  | following {index : Nat} {command : Command} {rest : List Command} {r : Run κ σ} {f : Failure}
      (failed : e.onProgress.bind hz.following = some f) :
      Hits hz e start total index (command :: rest) r f r
  /-- A command goes wrong and its failure cannot be put on record. -/
  | failing {index : Nat} {command : Command} {rest : List Command} {r announced s : Run κ σ}
      {f : Failure} {message : String} {now : Int}
      (followed : e.onProgress.bind hz.following = none)
      (announces : e.emitProgress total index command.name .running start r = (.ok (), announced))
      (trouble : e.trouble? command index announced = some (message, s))
      (stamped : Clock.milliseconds s.scene.clock = .ok now)
      (failed : hz.failing message s.scene = some f) :
      Hits hz e start total index (command :: rest) r f s
  /-- A command has failed and the flag to go on cannot be asked whether it counts. -/
  | asking {index : Nat} {command : Command} {rest : List Command} {r s : Run κ σ} {f : Failure}
      {result : CommandResult}
      (followed : e.onProgress.bind hz.following = none)
      (recorded : hz.unrecorded? e start total index command r = none)
      (attempted : e.attempt start total index command r = (.ok result, s))
      (unsuccessful : result.success = false)
      (failed : hz.asking s.scene.context.continueOnError s.scene = some f) :
      Hits hz e start total index (command :: rest) r f s
  /-- The run goes on after a command, and meets the hazard later. -/
  | later {index : Nat} {command : Command} {rest : List Command} {r s t : Run κ σ} {f : Failure}
      {result : CommandResult}
      (followed : e.onProgress.bind hz.following = none)
      (recorded : hz.unrecorded? e start total index command r = none)
      (attempted : e.attempt start total index command r = (.ok result, s))
      (asked : hz.struck? result s = none)
      (on : Engine.stopsAfter result s = false)
      (hits : Hits hz e start total (index + 1) rest s f t) :
      Hits hz e start total index (command :: rest) r f t

variable {hz : Hazards κ σ} {e : Engine κ σ} {start : Value} {total index : Nat}
  {command : Command} {commands : List Command} {r s : Run κ σ} {f : Failure}

theorem unrecorded?_eq_some {now : Int} {message : String} {announced : Run κ σ}
    (announces : e.emitProgress total index command.name .running start r = (.ok (), announced))
    (trouble : e.trouble? command index announced = some (message, s))
    (stamped : Clock.milliseconds s.scene.clock = .ok now)
    (failed : hz.failing message s.scene = some f) :
    hz.unrecorded? e start total index command r = some (f, s) := by
  simp only [unrecorded?, announces, trouble, stamped, failed, Option.map_some]

/-- What keeps a failure from its record is raised on its message. -/
theorem of_unrecorded?_eq_some (h : hz.unrecorded? e start total index command r = some (f, s)) :
    ∃ announced message now,
      e.emitProgress total index command.name .running start r = (.ok (), announced) ∧
      e.trouble? command index announced = some (message, s) ∧
      Clock.milliseconds s.scene.clock = .ok now ∧ hz.failing message s.scene = some f := by
  unfold unrecorded? at h
  split at h
  · cases h
  · rename_i announced hannounce
    split at h
    · cases h
    · rename_i message troubled htrouble
      split at h
      · cases h
      · rename_i now hstamp
        obtain ⟨_, hfailed, hpair⟩ := Option.map_eq_some_iff.mp h
        obtain ⟨rfl, rfl⟩ := Prod.mk.inj hpair
        exact ⟨announced, message, now, hannounce, htrouble, hstamp, hfailed⟩

/-- A hazard ends the commands with what it raises. -/
theorem Hits.runFrom_eq (h : hz.Hits e start total index commands r f s) :
    hz.runFrom e start total index commands r = (.error (.raised f), s) := by
  induction h with
  | following failed => simp only [runFrom, failed]
  | failing followed announces trouble stamped failed =>
    simp only [runFrom, followed, unrecorded?_eq_some announces trouble stamped failed]
  | asking followed recorded attempted unsuccessful failed =>
    simp [runFrom, followed, recorded, attempted, struck?, unsuccessful, failed]
  | later followed recorded attempted asked on _ ih =>
    simp [runFrom, followed, recorded, attempted, asked, on, ih]

/-- Commands that meet no hazard go as if there were none. -/
theorem runFrom_of_not_hits (h : ∀ f s, ¬ hz.Hits e start total index commands r f s) :
    hz.runFrom e start total index commands r = e.runFrom start total index commands r := by
  induction commands generalizing index r with
  | nil => rfl
  | cons command rest ih =>
    have followed : e.onProgress.bind hz.following = none :=
      Option.eq_none_iff_forall_ne_some.mpr fun f failed => h f r (.following failed)
    have recorded : hz.unrecorded? e start total index command r = none := by
      refine Option.eq_none_iff_forall_ne_some.mpr fun met hmet => ?_
      obtain ⟨_, _, _, announces, trouble, stamped, failed⟩ := of_unrecorded?_eq_some hmet
      exact h _ _ (.failing followed announces trouble stamped failed)
    rw [runFrom, followed, recorded, Engine.runFrom_cons]
    cases attempted : e.attempt start total index command r with
    | mk outcome s =>
      cases outcome with
      | error f => rfl
      | ok result =>
        have asked : hz.struck? result s = none := by
          refine Option.eq_none_iff_forall_ne_some.mpr fun f hstruck => ?_
          unfold struck? at hstruck
          split at hstruck
          · cases hstruck
          · rename_i unsuccessful
            exact h f s (.asking followed recorded attempted (by simpa using unsuccessful) hstruck)
        dsimp only
        rw [asked]
        by_cases on : Engine.stopsAfter result s = true
        · simp only [on, if_true]
        · simp only [on, Bool.false_eq_true, if_false]
          refine ih fun f t hits => ?_
          exact h f t (.later followed recorded attempted asked (by simpa using on) hits)

/-- Where neither callback nor failures nor flags raise anything, no command meets a hazard. -/
theorem not_hits (hfollowing : ∀ callback, hz.following callback = none)
    (hfailing : ∀ message s, hz.failing message s = none)
    (hasking : ∀ v s, hz.asking v s = none) :
    ¬ hz.Hits e start total index commands r f s := by
  intro h
  induction h with
  | following failed =>
    obtain ⟨callback, _, hraised⟩ := Option.bind_eq_some_iff.mp failed
    rw [hfollowing] at hraised
    cases hraised
  | failing _ _ _ _ failed =>
    rw [hfailing] at failed
    cases failed
  | asking _ _ _ _ failed =>
    rw [hasking] at failed
    cases failed
  | later _ _ _ _ _ _ ih => exact ih

end Hazards

namespace Engine

/-- The hazards that a run can meet, with what is raised and where that leaves the run. -/
inductive Meets (e : Engine κ σ) (hz : Hazards κ σ) (config : Config) (r : Run κ σ) :
    Failure → Run κ σ → Prop
  /-- The settings cannot be written out as a document. -/
  | writing {f : Failure} (failed : hz.unwritten? config r.scene = some f) :
      Meets e hz config r f (begin config r)
  /-- The settings are written out, and one of the commands meets a hazard. -/
  | commands {f : Failure} {s : Run κ σ} (written : hz.unwritten? config r.scene = none)
      (hits : hz.Hits e (startOf r.scene) config.commands.length 0 config.commands
        (prepare config r) f s) :
      Meets e hz config r f s

variable {e : Engine κ σ} {hz : Hazards κ σ} {config : Config} {r s : Run κ σ} {f : Failure}

/-- A run meets no hazard where its settings can be written out and nothing else raises anything. -/
theorem not_meets (written : hz.unwritten? config r.scene = none)
    (hfollowing : ∀ callback, hz.following callback = none)
    (hfailing : ∀ message s, hz.failing message s = none)
    (hasking : ∀ v s, hz.asking v s = none) : ¬ e.Meets hz config r f s := by
  intro h
  cases h with
  | writing failed =>
    rw [written] at failed
    cases failed
  | commands _ hits => exact Hazards.not_hits hfollowing hfailing hasking hits

/-- A hazard ends the run with what it raises. -/
theorem execute_of_meets (h : e.Meets hz config r f s) :
    e.execute config r hz = (.error (.raised f), s) := by
  unfold execute
  cases h with
  | writing failed => rw [failed]
  | commands written hits =>
    rw [written]
    dsimp only
    rw [hits.runFrom_eq]

/-- A run that meets no hazard goes as if there were none. -/
theorem execute_of_not_meets (h : ∀ f s, ¬ e.Meets hz config r f s) :
    e.execute config r hz = e.execute config r := by
  have written : hz.unwritten? config r.scene = none :=
    Option.eq_none_iff_forall_ne_some.mpr fun f failed => h f _ (.writing failed)
  have hrun := Hazards.runFrom_of_not_hits fun f s hits => h f s (.commands written hits)
  rw [execute_never]
  unfold execute
  rw [written]
  exact hrun ▸ rfl

theorem meets_or_execute_eq (e : Engine κ σ) (hz : Hazards κ σ) (config : Config) (r : Run κ σ) :
    (∃ f s, e.Meets hz config r f s) ∨ e.execute config r hz = e.execute config r := by
  by_cases h : ∃ f s, e.Meets hz config r f s
  · exact .inl h
  · exact .inr (execute_of_not_meets fun f s hmeets => h ⟨f, s, hmeets⟩)

end Engine

end Playbook
