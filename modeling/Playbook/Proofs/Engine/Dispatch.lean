import Playbook.Proofs.Engine.Events
import Playbook.Proofs.Engine.Returns
import Playbook.Proofs.Engine.Threading
import Playbook.Proofs.Outcome.Reading

/-!
Dispatching. The executor of a command is looked up when the command's turn has come, so that what
earlier executors and callbacks did to the registries counts. It is called once, and its answer
becomes the entry that is recorded if it is a result or holds one; whatever else it comes to is
recorded as a failure of the command.
-/

namespace Playbook

variable {κ σ : Type}

/-- Whatever an executor raises has a kind. -/
def Collaborators.NamesFailures (c : Collaborators κ σ) : Prop :=
  ∀ executor window command index s f,
    (c.execute executor window command index s).1 = .error f → f.kind ≠ ""

namespace Scene

/-- The time that a missing time stamp is filled with. -/
def stamp (s : Scene κ σ) : Int := (Clock.milliseconds s.clock).toOption.getD 0

/-- The URL that the active window reports, or else the base URL. -/
def url (s : Scene κ σ) : String :=
  (s.store.windowUrl? s.context.window).getD (s.context.baseUrl.getD "")

theorem currentUrl_eq_url (s : Scene κ σ) : s.context.currentUrl s.store = s.url := by
  unfold Context.currentUrl url
  cases s.store.windowUrl? s.context.window <;> rfl

end Scene

namespace Engine

/-- The executor of a command at a moment. An engine with a registry of its own looks nowhere else,
even where that registry is empty; one without looks in the default registry as it stands. -/
def executor? (e : Engine κ σ) (command : Command) (s : Scene κ σ) : Option κ :=
  match e.registry with
  | some own => (s.registries.others.lookup own).bind fun registry => registry.get? command.name
  | none => s.registries.default.get? command.name

theorem get?_registry (e : Engine κ σ) (command : Command) (s : Scene κ σ) :
    (s.registries.get e.registry).get? command.name = e.executor? command s := by
  unfold executor?
  cases e.registry with
  | none => rfl
  | some own =>
    simp only [Registries.get]
    cases s.registries.others.lookup own <;> rfl

/-- The answers that an entry is taken from. -/
inductive Gives (s : Scene κ σ) : Except Failure Outcome → CommandResult → Prop
  /-- A result is taken as it is. -/
  | result (entry : CommandResult) : Gives s (.ok (.result entry)) entry
  /-- So is one that comes as a value. -/
  | record {v : Value} {entry : CommandResult} (checked : CommandResult.ofRecord? v = some entry) :
      Gives s (.ok (.value v)) entry
  | mapping {v : Value} {entries : Entries} {entry : CommandResult}
      (holds : v.entries? s.store.lookup = some entries)
      (reads : CommandResult.Reads s.stamp s.store.lookup entries entry) :
      Gives s (.ok (.value v)) entry

/-- An entry for a command that came to nothing, made in a scene. -/
structure IsFailure (command : Command) (index : Nat) (s : Scene κ σ) (entry : CommandResult) :
    Prop where
  command : entry.command = command.name
  index : entry.index = index
  success : entry.success = false
  error : ∃ error, entry.error = some error ∧ error.type = .executionError ∧
    error.message ≠ "" ∧ error.context.url = s.url

/-- What dispatching a command in a run comes to, and how it leaves the run. -/
structure Dispatches (e : Engine κ σ) (command : Command) (index : Nat) (r : Run κ σ)
    (outcome : Except Clock.Fault CommandResult) (r' : Run κ σ) : Prop where
  /-- Without an executor nobody is called. -/
  absent : e.executor? command r.scene = none →
    r' = r ∧ ∀ entry, outcome = .ok entry → IsFailure command index r.scene entry
  /-- An executor is called once, and leaves the scene in which its answer is taken. -/
  present : ∀ executor, e.executor? command r.scene = some executor →
    let window := r.scene.context.window
    let made := e.collaborators.execute executor window command index r.scene
    r' = ⟨made.2, r.trace ++ [.call command.name index window]⟩ ∧
      ∀ entry, outcome = .ok entry →
        Gives made.2 made.1 entry ∨
          (∀ given, ¬ Gives made.2 made.1 given) ∧ IsFailure command index made.2 entry
  /-- There is an entry, unless the time of a failure cannot be told. -/
  entry : (∃ entry, outcome = .ok entry) ∨ ∃ f, Clock.milliseconds r'.scene.clock = .error f

variable {e : Engine κ σ} {command : Command} {index : Nat} {r : Run κ σ} {s : Scene κ σ}
  {answer : Except Failure Outcome} {entry : CommandResult} {message : String}
  {outcome : Except Clock.Fault CommandResult}

/-- A result is made of an answer exactly when the answer gives it. -/
theorem resultOf_eq_ok_iff : resultOf command s answer = .ok entry ↔ Gives s answer entry := by
  constructor
  · intro h
    unfold resultOf at h
    split at h
    · cases h
    · cases h
      exact .result entry
    · cases h
    · dsimp only at h
      split at h
      · rename_i hchecked
        cases h
        rcases CommandResult.check_eq_pass_iff.mp hchecked with hrecord | ⟨entries, hholds, hreads⟩
        · exact .record hrecord
        · exact .mapping hholds hreads
      · cases h
  · have hvalue {v : Value} (hv : v ≠ .null)
        (hpass : CommandResult.check s.stamp s.store.lookup v = .pass entry) :
        resultOf command s (.ok (.value v)) = .ok entry := by
      unfold Scene.stamp at hpass
      simp only [resultOf, hpass]
    intro h
    cases h with
    | result => rfl
    | record checked =>
      refine hvalue ?_ (CommandResult.check_eq_pass_iff.mpr (.inl checked))
      rintro rfl
      cases checked
    | mapping holds reads =>
      refine hvalue ?_ (CommandResult.check_eq_pass_iff.mpr (.inr ⟨_, holds, reads⟩))
      rintro rfl
      cases holds

theorem rejectionText_ne_empty (type : String) (issues : List Schema.Issue) :
    rejectionText type issues ≠ "" := by
  unfold rejectionText issueCountText
  split
  · decide
  · simp

/-- What is said of an answer that gives no result is never nothing. -/
theorem message_ne_empty (hkind : ∀ f, answer = .error f → f.kind ≠ "")
    (h : resultOf command s answer = .error message) : message ≠ "" := by
  unfold resultOf at h
  split at h
  · rename_i f
    cases h
    unfold Failure.describe
    split
    · exact hkind f rfl
    · assumption
  · cases h
  · cases h
    simp
  · dsimp only at h
    split at h
    · cases h
    · cases h
      exact rejectionText_ne_empty _ _

/-- A failure is an entry for its command, and says where it happened. -/
theorem isFailure_of_failure (hmessage : message ≠ "")
    (h : failure command.name index message s = .ok entry) : IsFailure command index s entry := by
  unfold failure at h
  split at h
  · cases h
  · cases h
    exact ⟨rfl, rfl, rfl, _, rfl, rfl, hmessage, s.currentUrl_eq_url⟩

/-- A failure is made, unless its time cannot be told. -/
theorem failure_made (name : String) (index : Nat) (message : String) (s : Scene κ σ) :
    (∃ entry, failure name index message s = .ok entry) ∨
      ∃ f, Clock.milliseconds s.clock = .error f := by
  cases hfailure : failure name index message s with
  | ok entry => exact .inl ⟨entry, rfl⟩
  | error f => exact .inr ⟨f, failure_fault hfailure⟩

theorem answered_made (command : Command) (index : Nat)
    (made : Except Failure Outcome × Scene κ σ) :
    (∃ entry, answered command index made = .ok entry) ∨
      ∃ f, Clock.milliseconds made.2.clock = .error f := by
  unfold answered
  split
  · exact .inl ⟨_, rfl⟩
  · exact failure_made _ _ _ _

/-- An answer is recorded as what it gives, and one that gives nothing as a failure. -/
theorem answered_cases (hname : command.name ≠ "") (hkind : ∀ f, answer = .error f → f.kind ≠ "")
    (h : answered command index (answer, s) = .ok entry) :
    Gives s answer entry ∨ (∀ given, ¬ Gives s answer given) ∧ IsFailure command index s entry := by
  unfold answered at h
  dsimp only at h
  cases hresult : resultOf command s answer with
  | ok given =>
    rw [hresult] at h
    obtain rfl := Except.ok.inj h
    exact .inl (resultOf_eq_ok_iff.mp hresult)
  | error message =>
    simp only [hresult, if_neg hname] at h
    refine .inr ⟨fun given hgiven => ?_, isFailure_of_failure (message_ne_empty hkind hresult) h⟩
    rw [resultOf_eq_ok_iff.mpr hgiven] at hresult
    cases hresult

theorem dispatches_dispatch (hkinds : e.collaborators.NamesFailures) (hname : command.name ≠ "")
    (index : Nat) (r : Run κ σ) :
    e.Dispatches command index r (e.dispatch command index r).1 (e.dispatch command index r).2 := by
  have hregistry := e.get?_registry command r.scene
  cases hexecutor : e.executor? command r.scene with
  | none =>
    rw [dispatch_of_none (hregistry.trans hexecutor)]
    refine
      { absent := fun _ => ⟨rfl, fun entry hentry => isFailure_of_failure (by simp) hentry⟩
        present := fun executor hsome => ?_
        entry := failure_made _ _ _ _ }
    rw [hexecutor] at hsome
    cases hsome
  | some executor =>
    rw [dispatch_of_some (hregistry.trans hexecutor)]
    refine
      { absent := fun hnone => ?_
        present := fun executor' hsome => ⟨?_, fun entry hentry => ?_⟩
        entry := answered_made _ _ _ }
    · rw [hexecutor] at hnone
      cases hnone
    · obtain rfl := Option.some.inj (hexecutor.symm.trans hsome)
      rfl
    · obtain rfl := Option.some.inj (hexecutor.symm.trans hsome)
      exact answered_cases hname (fun f hf => hkinds _ _ _ _ _ f hf) hentry

/-! ### Runs -/

/-- What an attempt has dispatched, called and recorded once it is reported. -/
structure Enters (e : Engine κ σ) (a : Attempt κ σ) : Prop where
  dispatches : e.Dispatches a.command a.index a.announced (.ok a.result) a.dispatched
  /-- From its announcement to its report it makes that one call of an executor, if it makes any. -/
  calls : a.closed.calls = a.opened.calls ++
    ((e.executor? a.command a.announced.scene).map fun _ =>
      ⟨a.command.name, a.index, a.announced.scene.context.window⟩).toList
  /-- The entry is added behind all others, and stays there unless a method that releases the old
  window changes what is recorded. -/
  entry : (e.freed a).scene.context.results = a.noted.scene.context.results →
    a.recorded.scene.context.results = a.dispatched.scene.context.results ++ [a.result]
  signs : 0 ≤ (a.result.index : Int) ∧ 0 ≤ (a.result.duration : Int)

variable {start : Value} {total : Nat} {a : Attempt κ σ}

theorem Makes.calls_closed (made : e.Makes start total a) :
    a.closed.calls = a.opened.calls ++
      ((e.executor? a.command a.announced.scene).map fun _ =>
        ⟨a.command.name, a.index, a.announced.scene.context.window⟩).toList := by
  have hannounced := calls_emitProgress e total a.index a.command.name .running start a.opened
  have hdispatched := trace_dispatch e a.command a.index a.announced
  have hrecorded := calls_record e a.command a.result a.dispatched
  have hclosed := calls_emitProgress e total a.index a.command.name a.status start a.recorded
  rw [made.announce] at hannounced
  rw [made.dispatch] at hdispatched
  rw [made.record] at hrecorded
  rw [made.report] at hclosed
  have hcall : a.dispatched.calls = a.announced.calls ++
      ((e.executor? a.command a.announced.scene).map fun _ =>
        ⟨a.command.name, a.index, a.announced.scene.context.window⟩).toList := by
    unfold Run.calls
    rw [hdispatched, List.filterMap_append, call?, e.get?_registry]
    cases e.executor? a.command a.announced.scene <;> simp [Event.call?]
  rw [hclosed, hrecorded, hcall, hannounced]

theorem Reaches.results_recorded (reached : e.Reaches start total a)
    (hleave : (e.freed a).scene.context.results = a.noted.scene.context.results) :
    a.recorded.scene.context.results = a.dispatched.scene.context.results ++ [a.result] := by
  rw [← reached.record]
  cases hwindow : e.newWindow? a with
  | none =>
    rw [record_of_none hwindow]
    rfl
  | some w =>
    rw [record_of_some hwindow, context_adoptState]
    exact hleave

/-- Dispatching, in any run. The executor of a command is looked up in the registry as it is when
the command's turn has come: that of the engine, also when it is empty, or else the default one. If
there is none nobody is called; if there is one it is called once, with the active window, the
command, its position and the scene of the run. The result that the executor gives, or that it
spells as a mapping, is recorded as it is, and everything else as a failure of the command at its
position that says something and names the URL of the window that is active by then. All of that
holds of every attempt of the run, and of a dispatch that no attempt comes of because a time could
not be told. -/
theorem run_dispatches_commands {config : Config} {r : Run κ σ}
    (hkinds : e.collaborators.NamesFailures)
    (hnames : ∀ command ∈ config.commands, command.name ≠ "") :
    (∀ a ∈ e.attempts config r, config.commands[a.index]? = some a.command ∧ e.Enters a) ∧
      ∀ command ∈ config.commands, ∀ index opened,
        e.Dispatches command index opened (e.dispatch command index opened).1
          (e.dispatch command index opened).2 := by
  refine ⟨fun a ha => ?_, fun command hmem index opened =>
    dispatches_dispatch hkinds (hnames command hmem) index opened⟩
  obtain ⟨outcome, hplays, _⟩ := plays_attempts e config r
  have made := Goes.made hplays a ha
  obtain ⟨before, after, hrow⟩ := List.append_of_mem ha
  have hcommand : config.commands[a.index]? = some a.command := by
    rw [Goes.index_eq hplays hrow, Nat.zero_add]
    exact Goes.command_eq hplays hrow
  have hdispatches := dispatches_dispatch hkinds
    (hnames a.command (List.mem_of_getElem? hcommand)) a.index a.announced
  rw [made.dispatch] at hdispatches
  exact ⟨hcommand, hdispatches, made.calls_closed, made.reaches.results_recorded,
    Int.natCast_nonneg _, Int.natCast_nonneg _⟩

/-- Executors that answer as they are told, or open the page that they are told and raise an error
without a text there. -/
def strayers : Collaborators (Except String Outcome) Unit where
  isAsync _ := false
  execute part _ _ _ s :=
    match part with
    | .ok outcome => (.ok outcome, s)
    | .error url =>
      let window := Value.ofFields [("url", .text url)]
      (.error ⟨"RuntimeError", ""⟩, { s with context := { s.context with window } })
  notify _ _ s := (.ok (), s)
  invoke _ _ _ _ s := (.ok (), s)

/-- An engine with a registry of its own. -/
def strayingEngine : Engine (Except String Outcome) Unit :=
  { collaborators := strayers, registry := some "own" }

/-- A result under the other name for its index, nothing, a mapping that holds no result, an error
on a page that was opened before it, and a name that only the default registry has. -/
def strayingRun : Run (Except String Outcome) Unit :=
  let spelled (index : Int) : Value :=
    .ofFields [("command", .text "told"), ("commandIndex", .int index), ("success", .bool true)]
  let own : Registry (Except String Outcome) :=
    ⟨[("told", .ok (.value (spelled 7))), ("silent", .ok (.value .null)),
      ("below", .ok (.value (spelled (-1)))), ("lost", .error "https://lost.example")]⟩
  let default : Registry (Except String Outcome) := ⟨[("default", .ok (.value (spelled 0)))]⟩
  { scene :=
      { clock := 1000.0, store := .empty, registries := ⟨default, [("own", own)]⟩
        context := { baseUrl := some "https://base.example", continueOnError := .bool true }
        memory := () }
    trace := [] }

def strayingConfig : Config := .ofNames ["told", "silent", "below", "lost", "default"]

theorem straying_run_dispatches_commands :
    let row := strayingEngine.attempts strayingConfig strayingRun
    row.map (fun a => (a.result.command, a.result.index)) =
        [("told", 7), ("silent", 1), ("below", 2), ("lost", 3), ("default", 4)] ∧
      row.map (fun a => a.result.error.map fun error => error.context.url) =
        [none, some "https://base.example", some "https://base.example",
          some "https://lost.example", some "https://lost.example"] ∧
      row.map (fun a => a.result.error.map CommandError.message) =
        [none, some "Executor for 'silent' returned no result",
          some "1 validation error for CommandResult", some "RuntimeError",
          some "Unknown command type: default"] ∧
      ∀ a ∈ row, strayingConfig.commands[a.index]? = some a.command ∧
        strayingEngine.Enters a := by
  have hkinds : strayers.NamesFailures := by
    rintro (url | outcome) window command index s f hraised
    · cases hraised
      decide
    · cases hraised
  have hnames : ∀ command ∈ strayingConfig.commands, command.name ≠ "" := by
    simp [strayingConfig, Config.ofNames]
  exact ⟨by decide +kernel, by decide +kernel, by decide +kernel,
    (run_dispatches_commands hkinds hnames).1⟩

end Engine

end Playbook
