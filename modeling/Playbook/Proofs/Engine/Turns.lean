import Playbook.Proofs.Engine.Events
import Playbook.Proofs.Engine.Threading

/-!
The turns of commands. A command is dispatched when the run has come to it and has announced it, and
that is when its executor sees the context, whether the attempt is completed or not. What neither a
collaborator nor the recording of results changes is the same at every turn.
-/

namespace Playbook

variable {κ σ : Type}

namespace Engine

/-- In a run through some commands it is the turn of one of them: the run has come to it and has
announced it, and dispatches it next. -/
inductive Turn (e : Engine κ σ) (start : Value) (total : Nat) :
    Nat → List Command → Run κ σ → Command → Nat → Run κ σ → Prop
  | now {index : Nat} {command : Command} {rest : List Command} {r announced : Run κ σ}
      (announce : e.emitProgress total index command.name .running start r = (.ok (), announced)) :
      Turn e start total index (command :: rest) r command index announced
  | later {a : Attempt κ σ} {rest : List Command} {command : Command} {place : Nat} {s : Run κ σ}
      (made : e.Makes start total a) (on : ¬ a.Halts)
      (more : Turn e start total (a.index + 1) rest a.closed command place s) :
      Turn e start total a.index (a.command :: rest) a.opened command place s

variable {e : Engine κ σ} {start : Value} {total index place : Nat} {commands : List Command}
  {command : Command} {r r' s : Run κ σ} {a : Attempt κ σ} {call : Call}

section Keeping

variable {α : Type} {f : Scene κ σ → α}

theorem Makes.keeps (made : e.Makes start total a) (hkeep : e.collaborators.Keeps f)
    (hrecord : ∀ command result r, f (e.record command result r).scene = f r.scene) :
    f a.closed.scene = f a.opened.scene := by
  rw [made.closed_keeps hkeep, ← made.record, hrecord]
  exact made.dispatched_keeps hkeep

/-- What neither a collaborator nor the recording of results changes is at every turn what it was
at first. -/
theorem Turn.keeps (turn : e.Turn start total index commands r command place s)
    (hkeep : e.collaborators.Keeps f)
    (hrecord : ∀ command result r, f (e.record command result r).scene = f r.scene) :
    f s.scene = f r.scene := by
  induction turn with
  | @now index command _ r _ announce =>
    have h := emitProgress_keeps hkeep total index command.name .running start r
    rwa [announce] at h
  | later made _ _ ih => exact ih.trans (made.keeps hkeep hrecord)

end Keeping

/-! ### Calls -/

/-- A dispatch adds the call of its command, with the window that is active by then. -/
theorem mem_calls_dispatch {announced : Run κ σ}
    (announce : e.emitProgress total index command.name .running start r = (.ok (), announced))
    (h : call ∈ (e.dispatch command index announced).2.calls) :
    call ∈ r.calls ∨ call = ⟨command.name, index, announced.scene.context.window⟩ := by
  have hannounced := calls_emitProgress e total index command.name .running start r
  rw [announce] at hannounced
  obtain ⟨calls, hdispatch, hcalls⟩ := calls_dispatch e command index announced
  rw [hdispatch, hannounced] at h
  exact (List.mem_append.mp h).imp_right fun hcall => List.mem_singleton.mp (hcalls.subset hcall)

theorem Reaches.mem_calls (reached : e.Reaches start total a) (h : call ∈ a.recorded.calls) :
    call ∈ a.opened.calls ∨ call = ⟨a.command.name, a.index, a.announced.scene.context.window⟩ := by
  rw [← reached.record, calls_record] at h
  refine mem_calls_dispatch reached.announce ?_
  rw [reached.dispatch]
  exact h

theorem Makes.mem_calls (made : e.Makes start total a) (h : call ∈ a.closed.calls) :
    call ∈ a.opened.calls ∨ call = ⟨a.command.name, a.index, a.announced.scene.context.window⟩ := by
  have hreport := calls_emitProgress e total a.index a.command.name a.status start a.recorded
  rw [made.report] at hreport
  exact made.reaches.mem_calls (hreport ▸ h)

/-- An executor that is called is called at the turn of its command. -/
def CalledAtTurn (e : Engine κ σ) (start : Value) (total index : Nat) (commands : List Command)
    (r : Run κ σ) (call : Call) : Prop :=
  ∃ command place s, e.Turn start total index commands r command place s ∧
    call = ⟨command.name, place, s.scene.context.window⟩

theorem Breaks.mem_calls {f : Clock.Fault} (h : e.Breaks start total index command r f r')
    (hcall : call ∈ r'.calls) (rest : List Command) :
    call ∈ r.calls ∨ e.CalledAtTurn start total index (command :: rest) r call := by
  cases h with
  | announce => exact .inl hcall
  | dispatch announce failed =>
    refine (mem_calls_dispatch announce ?_).imp_right fun h => ⟨_, _, _, .now announce, h⟩
    rw [failed]
    exact hcall
  | report reached hindex hcommand hopened =>
    subst hindex hcommand hopened
    exact (reached.mem_calls hcall).imp_right fun h => ⟨_, _, _, .now reached.announce, h⟩

/-- Every executor that a run calls is called at the turn of its command. -/
theorem Goes.mem_calls {row : List (Attempt κ σ)} {outcome : Except Escape Unit}
    (h : e.Goes start total index commands r row outcome r') (hcall : call ∈ r'.calls) :
    call ∈ r.calls ∨ e.CalledAtTurn start total index commands r call := by
  induction h with
  | through => exact .inl hcall
  | fault failed => exact (breaks_of_attempt failed).mem_calls hcall _
  | halt made => exact (made.mem_calls hcall).imp_right fun h => ⟨_, _, _, .now made.announce, h⟩
  | next made on _ ih =>
    rcases ih hcall with hclosed | ⟨command, place, s, hturn, hat⟩
    · exact (made.mem_calls hclosed).imp_right fun h => ⟨_, _, _, .now made.announce, h⟩
    · exact .inr ⟨command, place, s, .later made on hturn, hat⟩

end Engine

end Playbook
