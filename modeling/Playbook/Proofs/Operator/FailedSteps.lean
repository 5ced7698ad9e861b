import Mathlib.Data.List.Forall2
import Playbook.Proofs.Operator.Outcomes
import Playbook.Report

/-!
What the text on a run lists. It has a section on failed steps exactly when an attempted command
failed, with one entry for each failed result in the order of the run. In its longer form it adds
one entry for each recorded result, and marks as failed just those that the section lists.
-/

namespace Playbook

/-- The results of what failed in a run. -/
def RunResult.failedResults (run : RunResult) : List CommandResult :=
  run.results.filter fun result => !result.success

theorem RunResult.mem_failedResults {run : RunResult} {result : CommandResult} :
    result ∈ run.failedResults ↔ result ∈ run.results ∧ result.success = false := by
  simp [failedResults]

namespace Report

variable {μ : Type} {store : Store μ} {result : CommandResult} {run : RunResult}

/-! ### Entries -/

/-- What a step goes by: the description in the payload of its result when that is text and not
empty, and the name of its command otherwise. -/
inductive Titles (store : Store μ) (result : CommandResult) : String → Prop
  | described {text : String} (holds : store.field result.data "description" = .text text)
      (nonempty : text ≠ "") : Titles store result text
  | undescribed
      (silent : ∀ text, store.field result.data "description" = .text text → text = "") :
      Titles store result result.command

/-- An entry in the section on failed steps. -/
@[ext]
structure FailureEntry where
  /-- Steps are counted from one. -/
  step : Nat
  title : String
  message : String

/-- An entry in the details on all steps. -/
@[ext]
structure DetailEntry where
  failed : Bool
  step : Nat
  command : String
  title : String
  /-- Milliseconds. -/
  duration : Nat
  message : Option String

namespace FailureEntry

def lines (entry : FailureEntry) : List String :=
  ["   [Step " ++ toString entry.step ++ "] " ++ entry.title, "      Error: " ++ entry.message]

/-- An entry tells of a failed result. -/
structure On (store : Store μ) (result : CommandResult) (entry : FailureEntry) : Prop where
  failed : result.success = false
  step : entry.step = result.index + 1
  title : Titles store result entry.title
  message : ∀ error, result.error = some error → entry.message = error.message
  unknown : result.error = none → entry.message = "unknown error"

def ofResult (store : Store μ) (result : CommandResult) : FailureEntry where
  step := result.index + 1
  title := stepDescription store result
  message := failureText result

end FailureEntry

namespace DetailEntry

def lines (entry : DetailEntry) : List String :=
  ["   " ++ (if entry.failed then "✗" else "✓") ++ " [" ++ toString entry.step ++ "] " ++
      entry.command ++ ": " ++ entry.title,
    "      Time: " ++ toString entry.duration ++ "ms"] ++
    entry.message.toList.map fun message => "      Error: " ++ message

/-- An entry tells of a result, and marks it as failed just when it is. -/
structure On (store : Store μ) (result : CommandResult) (entry : DetailEntry) : Prop where
  failed_iff : entry.failed = true ↔ result.success = false
  step : entry.step = result.index + 1
  command : entry.command = result.command
  title : Titles store result entry.title
  duration : entry.duration = result.duration
  message : entry.message =
    if result.success then none else result.error.map CommandError.message

def ofResult (store : Store μ) (result : CommandResult) : DetailEntry where
  failed := !result.success
  step := result.index + 1
  command := result.command
  title := stepDescription store result
  duration := result.duration
  message := if result.success then none else result.error.map CommandError.message

end DetailEntry

theorem titles_stepDescription (store : Store μ) (result : CommandResult) :
    Titles store result (stepDescription store result) := by
  unfold stepDescription
  cases hsays : Store.saysText? (store.field result.data "description") with
  | some text =>
    cases hfield : store.field result.data "description" with
    | text s =>
      rw [hfield] at hsays
      obtain ⟨hne, hs⟩ : s ≠ "" ∧ s = text := by simpa [Store.saysText?] using hsays
      subst hs
      exact .described hfield hne
    | _ =>
      rw [hfield] at hsays
      cases hsays
  | none =>
    refine .undescribed fun text htext => ?_
    rw [htext] at hsays
    simpa [Store.saysText?] using hsays

/-- A step goes by one title only. -/
theorem titles_unique {title other : String} (h : Titles store result title)
    (h' : Titles store result other) : title = other := by
  cases h with
  | described holds nonempty =>
    cases h' with
    | described holds' _ => exact Value.text.inj (holds.symm.trans holds')
    | undescribed silent => exact absurd (silent _ holds) nonempty
  | undescribed silent =>
    cases h' with
    | described holds' nonempty' => exact absurd (silent _ holds') nonempty'
    | undescribed _ => rfl

namespace FailureEntry

theorem ofResult_on (store : Store μ) (hfailed : result.success = false) :
    (ofResult store result).On store result where
  failed := hfailed
  step := rfl
  title := titles_stepDescription store result
  message error herror := by simp [ofResult, failureText, herror]
  unknown hnone := by simp [ofResult, failureText, hnone]

theorem on_unique : Relator.RightUnique fun result entry => On store result entry := by
  intro result entry other h h'
  refine FailureEntry.ext (h.step.trans h'.step.symm) (titles_unique h.title h'.title) ?_
  cases herror : result.error with
  | none => rw [h.unknown herror, h'.unknown herror]
  | some error => rw [h.message error herror, h'.message error herror]

theorem lines_ofResult (store : Store μ) (result : CommandResult) :
    (ofResult store result).lines = failedLines store result := rfl

end FailureEntry

namespace DetailEntry

theorem ofResult_on (store : Store μ) (result : CommandResult) :
    (ofResult store result).On store result where
  failed_iff := by simp [ofResult]
  step := rfl
  command := rfl
  title := titles_stepDescription store result
  duration := rfl
  message := rfl

theorem on_unique : Relator.RightUnique fun result entry => On store result entry := by
  intro result entry other h h'
  have hfailed : entry.failed = other.failed :=
    Bool.eq_iff_iff.mpr (h.failed_iff.trans h'.failed_iff.symm)
  exact DetailEntry.ext hfailed (h.step.trans h'.step.symm) (h.command.trans h'.command.symm)
    (titles_unique h.title h'.title) (h.duration.trans h'.duration.symm)
    (h.message.trans h'.message.symm)

theorem lines_ofResult (store : Store μ) (result : CommandResult) :
    (ofResult store result).lines = detailLines store result := by
  unfold lines ofResult detailLines
  cases hsuccess : result.success with
  | true => simp
  | false => cases result.error <;> simp

end DetailEntry

/-! ### Texts in their parts -/

/-- The line that opens the section on failed steps. -/
def failuresHeading : String := "\n❌ Failed steps:"

/-- What the text on a run is made of. -/
@[ext]
structure Parts where
  passed : Bool
  succeeded : Int
  commands : Int
  /-- Milliseconds. -/
  duration : Int
  /-- The section on failed steps, if there is one. -/
  failures : Option (List FailureEntry)
  details : List DetailEntry

namespace Parts

variable {p : Parts}

def head (p : Parts) : List String :=
  [if p.passed then "✅ Test PASSED" else "❌ Test FAILED",
    "   Steps: " ++ toString p.succeeded ++ "/" ++ toString p.commands ++ " succeeded",
    "   Duration: " ++ toString p.duration ++ "ms"]

def failureLines (p : Parts) : List String :=
  match p.failures with
  | none => []
  | some entries => failuresHeading :: entries.flatMap FailureEntry.lines

/-- The lines of the shorter form. -/
def brief (p : Parts) : List String := p.head ++ p.failureLines

/-- The lines of the longer form: those of the shorter one, and details behind them. -/
def full (p : Parts) : List String :=
  ["", ruler] ++ p.brief ++
    ([ruler, "", "📊 Step Details:"] ++ p.details.flatMap DetailEntry.lines ++ [""])

/-- Parts tell of a run. -/
structure TellOf (store : Store μ) (run : RunResult) (p : Parts) : Prop where
  passed : p.passed = run.success
  succeeded : p.succeeded = run.successCount
  commands : p.commands = run.totalCommands
  duration : p.duration = run.duration
  /-- There is a section on failed steps exactly when something failed. -/
  failures_iff : p.failures.isSome = true ↔ ∃ result ∈ run.results, result.success = false
  /-- It has one entry for each failed result, in their order. -/
  failures : List.Forall₂ (fun result entry => entry.On store result) run.failedResults
    (p.failures.getD [])
  /-- The details have one entry for each result, in their order. -/
  details : List.Forall₂ (fun result entry => entry.On store result) run.results p.details

/-- The parts of the text on a run. -/
def ofRun (store : Store μ) (run : RunResult) : Parts where
  passed := run.success
  succeeded := run.successCount
  commands := run.totalCommands
  duration := run.duration
  failures :=
    if run.success then none
    else some (run.failedResults.map (FailureEntry.ofResult store))
  details := run.results.map (DetailEntry.ofResult store)

theorem failureLines_ofRun (store : Store μ) (run : RunResult) :
    (ofRun store run).failureLines =
      if run.success then [] else
        failuresHeading :: run.failedResults.flatMap (failedLines store) := by
  unfold failureLines ofRun
  cases run.success with
  | true => rfl
  | false => simp [List.flatMap_map, FailureEntry.lines_ofResult]

theorem brief_ofRun (store : Store μ) (run : RunResult) :
    (ofRun store run).brief = runLines store false run := by
  unfold brief
  rw [failureLines_ofRun, runLines, if_neg Bool.false_ne_true, if_neg Bool.false_ne_true,
    List.nil_append, List.append_nil]
  rfl

/-- The longer form has all the lines of the shorter one in a row. -/
theorem runLines_true (store : Store μ) (run : RunResult) :
    runLines store true run = ["", ruler] ++ runLines store false run ++
      ([ruler, "", "📊 Step Details:"] ++ run.results.flatMap (detailLines store) ++ [""]) := by
  unfold runLines
  rw [if_pos rfl, if_pos rfl, if_neg Bool.false_ne_true, if_neg Bool.false_ne_true,
    List.nil_append, List.append_nil]
  simp only [List.append_assoc]

theorem full_ofRun (store : Store μ) (run : RunResult) :
    (ofRun store run).full = runLines store true run := by
  have hdetails : (ofRun store run).details.flatMap DetailEntry.lines =
      run.results.flatMap (detailLines store) := by
    simp [ofRun, List.flatMap_map, DetailEntry.lines_ofResult]
  rw [full, brief_ofRun, hdetails, runLines_true]

/-! ### What the parts tell -/

namespace TellOf

/-- What a run is told by is settled by the run. -/
theorem unique {q : Parts} (h : p.TellOf store run) (h' : q.TellOf store run) : p = q := by
  have hlisted := FailureEntry.on_unique.forall₂ h.failures h'.failures
  have hsome : p.failures.isSome = q.failures.isSome :=
    Bool.eq_iff_iff.mpr (h.failures_iff.trans h'.failures_iff.symm)
  -- A missing section and one without entries list the same, but only one of them is there.
  have hfailures : p.failures = q.failures := by
    cases hp : p.failures with
    | none =>
      rw [hp] at hsome
      have hnone : q.failures = none :=
        Option.not_isSome_iff_eq_none.mp (by rw [← hsome]; exact Bool.false_ne_true)
      rw [hnone]
    | some entries =>
      rw [hp] at hsome hlisted
      obtain ⟨others, hq⟩ := Option.isSome_iff_exists.mp hsome.symm
      rw [hq] at hlisted ⊢
      exact congrArg some hlisted
  exact Parts.ext (h.passed.trans h'.passed.symm) (h.succeeded.trans h'.succeeded.symm)
    (h.commands.trans h'.commands.symm) (h.duration.trans h'.duration.symm) hfailures
    (DetailEntry.on_unique.forall₂ h.details h'.details)

/-- The section has as many entries as the account counts errors. -/
theorem length_failures {commands : Nat} (h : p.TellOf store run)
    (htallies : Engine.Tallies commands run.results run) :
    ((p.failures.getD []).length : Int) = run.errorCount := by
  rw [← h.failures.length_eq, RunResult.failedResults, ← List.countP_eq_length_filter,
    htallies.errors]

/-- The details mark as failed what the section lists. -/
theorem marked (h : p.TellOf store run) :
    List.Forall₂ (fun result entry => entry.On store result) run.failedResults
      (p.details.filter DetailEntry.failed) := by
  refine List.rel_filter (fun result entry hon => ?_) h.details
  show (!result.success) = true ↔ entry.failed = true
  simp only [hon.failed_iff, Bool.not_eq_true']

end TellOf

/-- Where the account counts its results, the section lists what failed, and a run of which nothing
failed has nothing to list. -/
theorem failures_ofRun {commands : Nat} (store : Store μ)
    (htallies : Engine.Tallies commands run.results run) :
    ((ofRun store run).failures.isSome = true ↔
      ∃ result ∈ run.results, result.success = false) ∧
    (ofRun store run).failures.getD [] =
      run.failedResults.map (FailureEntry.ofResult store) := by
  have hall := htallies.success_iff_all
  -- The flag of the account decides whether there is a section, the results what stands in it.
  cases hsuccess : run.success with
  | true =>
    have hnone : (ofRun store run).failures = none := if_pos hsuccess
    have hgood := hall.mp hsuccess
    have hno : ¬ ∃ result ∈ run.results, result.success = false := by
      rintro ⟨result, hmem, hbad⟩
      rw [hgood result hmem] at hbad
      cases hbad
    have hfailed : run.failedResults = [] := by
      refine List.eq_nil_iff_forall_not_mem.mpr fun result hmem => ?_
      exact hno ⟨result, RunResult.mem_failedResults.mp hmem⟩
    rw [hnone, hfailed]
    exact ⟨iff_of_false Bool.false_ne_true hno, rfl⟩
  | false =>
    have hsome : (ofRun store run).failures =
        some (run.failedResults.map (FailureEntry.ofResult store)) :=
      if_neg (by rw [hsuccess]; exact Bool.false_ne_true)
    rw [hsome]
    refine ⟨iff_of_true rfl ?_, rfl⟩
    have hbad : ¬ ∀ result ∈ run.results, result.success = true := by
      rw [← hall, hsuccess]
      exact Bool.false_ne_true
    simpa using hbad

theorem tellOf_ofRun {commands : Nat} (store : Store μ)
    (htallies : Engine.Tallies commands run.results run) :
    (ofRun store run).TellOf store run := by
  obtain ⟨hiff, hlisted⟩ := failures_ofRun store htallies
  refine ⟨rfl, rfl, rfl, rfl, hiff, ?_, ?_⟩
  · rw [hlisted, List.forall₂_map_right_iff, List.forall₂_same]
    intro result hmem
    exact FailureEntry.ofResult_on store (RunResult.mem_failedResults.mp hmem).2
  · rw [ofRun, List.forall₂_map_right_iff, List.forall₂_same]
    exact fun result _ => DetailEntry.ofResult_on store result

/-! ### The heading among the lines -/

/-- A line that starts with a blank is not the heading. -/
theorem heading_ne_blank {lead : String} (hblank : lead.toList.head? = some ' ')
    (rest : String) : failuresHeading ≠ lead ++ rest := by
  intro heq
  have hfront := congrArg (fun line => line.toList.head?) heq
  simp [failuresHeading, hblank] at hfront

theorem heading_notMem_detail (entry : DetailEntry) : failuresHeading ∉ entry.lines := by
  simp only [DetailEntry.lines, String.append_assoc, List.mem_append, List.mem_cons,
    List.not_mem_nil, or_false, List.mem_map, not_or, not_exists, not_and]
  exact ⟨⟨heading_ne_blank (by decide) _, heading_ne_blank (by decide) _⟩,
    fun _ _ => (heading_ne_blank (by decide) _).symm⟩

theorem heading_notMem_head (p : Parts) : failuresHeading ∉ p.head := by
  have hverdict : failuresHeading ≠ if p.passed then "✅ Test PASSED" else "❌ Test FAILED" := by
    split <;> decide
  simp only [head, String.append_assoc, List.mem_cons, List.not_mem_nil, or_false, not_or]
  exact ⟨hverdict, heading_ne_blank (by decide) _, heading_ne_blank (by decide) _⟩

/-- The heading is among the lines exactly when there is a section on failed steps. -/
theorem heading_mem_brief_iff : failuresHeading ∈ p.brief ↔ p.failures.isSome = true := by
  rw [brief, List.mem_append, or_iff_right p.heading_notMem_head, failureLines]
  cases p.failures with
  | none => simp
  | some entries => simp

theorem heading_mem_full_iff : failuresHeading ∈ p.full ↔ failuresHeading ∈ p.brief := by
  have hdetails : failuresHeading ∉ p.details.flatMap DetailEntry.lines := by
    rw [List.mem_flatMap]
    rintro ⟨entry, _, hmem⟩
    exact heading_notMem_detail entry hmem
  have hopen : failuresHeading ∉ ["", ruler] := by decide
  have htitle : failuresHeading ∉ [ruler, "", "📊 Step Details:"] := by decide
  have hclose : failuresHeading ∉ [""] := by decide
  simp only [full, List.mem_append, hopen, htitle, hdetails, hclose, or_false, false_or]

/-! ### Texts made up of parts -/

/-- Parts that tell of a run make up the text on it in both forms, and no others tell of it. -/
structure MakeUp (store : Store μ) (t : TestResult) (run : RunResult) (p : Parts) : Prop where
  tells : p.TellOf store run
  settled : ∀ q : Parts, q.TellOf store run → q = p
  brief : testText store false t = String.intercalate "\n" p.brief
  full : testText store true t = String.intercalate "\n" p.full
  /-- The section has as many entries as the account counts errors. -/
  count : ((p.failures.getD []).length : Int) = run.errorCount
  /-- The details mark as failed what the section lists. -/
  marked : List.Forall₂ (fun result entry => entry.On store result) run.failedResults
    (p.details.filter DetailEntry.failed)

theorem makeUp_ofRun {commands : Nat} (store : Store μ) {t : TestResult}
    (hrun : t.result = some run) (htallies : Engine.Tallies commands run.results run) :
    (ofRun store run).MakeUp store t run := by
  have htell := tellOf_ofRun store htallies
  refine ⟨htell, fun q hq => hq.unique htell, ?_, ?_, htell.length_failures htallies,
    htell.marked⟩
  · rw [brief_ofRun]
    simp only [testText, hrun]
  · rw [full_ofRun]
    simp only [testText, hrun]

end Parts

end Report

/-! ### Runs that are reported on -/

namespace Engine

open Report

variable {κ σ : Type} {e : Engine κ σ} {config : Config} {r opened : Run κ σ} {run : RunResult}

/-- A report on a run lists its failures. The run is one of a configuration with nothing recorded
before it, and its text, whatever has become of the store by then, is made of parts that tell of it:
both forms open a section on failed steps exactly when an attempted command failed. -/
def ListsFailures (e : Engine κ σ) (handled : Except OperationError TestResult × Run κ σ) : Prop :=
  ∀ t run, handled.1 = .ok t → t.result = some run →
    ∃ config opened, t.config = some config ∧ OfOneRun e config opened handled.2 run ∧
      Tallies config.commands.length run.results run ∧
      ∀ store : Store κ, ∃ p : Parts, p.MakeUp store t run ∧
        ∀ lines ∈ [p.brief, p.full], failuresHeading ∈ lines ↔
          ∃ a ∈ e.attempts config opened, a.result.success = false

/-- The account of an operation counts its own results. -/
theorem tallies_of_runInContext (h : (e.runInContext config r).1 = .ok run) :
    Tallies config.commands.length run.results run := by
  cases hprotect : (e.protectCookies config r).1 with
  | error err =>
    rw [runInContext_of_error hprotect] at h
    cases h
  | ok _ =>
    rw [runInContext_of_ok hprotect] at h
    cases hexecute : (e.execute config (e.opening config r)).1 with
    | error f =>
      rw [hexecute] at h
      cases h
    | ok account =>
      rw [hexecute] at h
      obtain rfl := Except.ok.inj h
      obtain ⟨_, haccount⟩ := plays_of_execute_eq_ok hexecute
      have htallies := account_tallies haccount
      rwa [← htallies.results] at htallies

/-- Something failed exactly when the account counts errors. -/
theorem Tallies.exists_failed_iff {commands : Nat} {entries : List CommandResult}
    (h : Tallies commands entries run) :
    (∃ entry ∈ entries, entry.success = false) ↔ run.errorCount ≠ 0 := by
  have hall := h.success_iff_all
  rw [h.success_iff] at hall
  rw [Ne, hall]
  simp

theorem OfOneRun.exists_failed_iff {last : Run κ σ} (h : OfOneRun e config opened last run) :
    (∃ result ∈ run.results, result.success = false) ↔
      ∃ a ∈ e.attempts config opened, a.result.success = false := by
  rw [h.results]
  simp only [List.mem_map, exists_exists_and_eq_and]

/-- What an operation in a context without results comes to is reported with its failures. -/
theorem listsFailures_of_runInContext (hleave : e.collaborators.Keeps fun s => s.context.results)
    (hclean : r.scene.context.results = []) (config : Config) :
    let ended := e.runInContext config r
    e.ListsFailures (ended.1.map (TestResult.finished config), ended.2) := by
  intro ended t run hreport hrun
  cases hended : ended.1 with
  | error err =>
    rw [hended] at hreport
    cases hreport
  | ok account =>
    rw [hended] at hreport
    obtain rfl := Except.ok.inj hreport
    obtain rfl := Option.some.inj hrun
    have hone := ofOneRun_of_runInContext hleave hclean hended
    have htallies := tallies_of_runInContext hended
    refine ⟨config, e.opening config r, rfl, hone, htallies, fun store => ?_⟩
    have hparts := Parts.makeUp_ofRun store hrun htallies
    have hbrief : failuresHeading ∈ (Parts.ofRun store account).brief ↔
        ∃ a ∈ e.attempts config (e.opening config r), a.result.success = false := by
      rw [Parts.heading_mem_brief_iff, hparts.tells.failures_iff, hone.exists_failed_iff]
    refine ⟨Parts.ofRun store account, hparts, ?_⟩
    rw [List.forall_mem_cons, List.forall_mem_singleton, Parts.heading_mem_full_iff]
    exact ⟨hbrief, hbrief⟩

theorem listsFailures_of_stopped {error : String} {reported : Option Config} :
    e.ListsFailures (.ok (.stopped reported error), r) := by
  intro t run hreport hrun
  obtain rfl := Except.ok.inj hreport
  cases hrun

theorem listsFailures_of_error {err : OperationError} : e.ListsFailures (.error err, r) := by
  intro t run hreport
  cases hreport

theorem listsFailures_runOnWindow (hleave : e.collaborators.Keeps fun s => s.context.results)
    (config : Config) (backend window session : Value) (r : Run κ σ) :
    e.ListsFailures (e.runOnWindow config backend window session r) := by
  cases hbuild : buildContext r.scene.store
      (.value (windowContext r.scene.store backend window session)) with
  | error err =>
    unfold runOnWindow runConfig
    dsimp only
    rw [hbuild]
    exact listsFailures_of_error
  | ok context =>
    rw [runOnWindow_eq hbuild]
    exact listsFailures_of_runInContext hleave (results_of_buildContext hbuild) config

theorem listsFailures_handleTest (hleave : e.collaborators.Keeps fun s => s.context.results)
    (loader : Loader) (fetch : Fetch κ σ) (input : OperatorInput) (r : Run κ σ) :
    e.ListsFailures (e.handleTest loader fetch input r) := by
  unfold handleTest
  cases loader.loadFile input.configPath with
  | error err =>
    cases err with
    | fault kind => exact listsFailures_of_error
    | config err => exact listsFailures_of_stopped
  | ok config =>
    dsimp only
    cases testUrl? input config with
    | none => exact listsFailures_of_stopped
    | some url =>
      dsimp only
      cases fetch url input.fetchOptions (r.note (.fetch url input.fetchOptions)).scene with
      | mk outcome scene =>
        cases outcome with
        | error f => exact listsFailures_of_stopped
        | ok window => exact listsFailures_runOnWindow hleave config _ _ _ _

theorem listsFailures_handleExecute (hleave : e.collaborators.Keeps fun s => s.context.results)
    (loader : Loader) (window : Value) (source : Source) (session backend : Value)
    (r : Run κ σ) : e.ListsFailures (e.handleExecute loader window source session backend r) := by
  unfold handleExecute
  cases loader.loadOperation r.scene.store.lookup source with
  | error err =>
    cases err with
    | fault kind => exact listsFailures_of_error
    | config err => exact listsFailures_of_stopped
  | ok config => exact listsFailures_runOnWindow hleave config _ _ _ _

/-- Reports list exactly the failures. Where executors, who alone are handed the context, leave the
results in it alone, the text on any run that an operator asks for has a section on failed steps
exactly when an attempted command failed. The section has as many entries as the account counts
errors: one for each failed result in the order of the run, with its place counted from one, what it
goes by, and its message. Before it stand the counts of the account; the longer form adds one entry
for each recorded result, and marks as failed just those of the section. -/
theorem reports_list_exactly_failures (e : Engine κ σ) (loader : Loader)
    (hleave : e.collaborators.Keeps fun s => s.context.results) :
    (∀ fetch input r, e.ListsFailures (e.handleTest loader fetch input r)) ∧
      ∀ window source session backend r,
        e.ListsFailures (e.handleExecute loader window source session backend r) :=
  ⟨fun fetch input r => listsFailures_handleTest hleave loader fetch input r,
    fun window source session backend r =>
      listsFailures_handleExecute hleave loader window source session backend r⟩

/-- One command succeeds, and one fails without an error and is gone on from. -/
def falteringRun : Run Part Unit :=
  Part.stage
    [("open", Part.reporting true [("description", .text "Open the page")]),
      ("press",
        { goOn := some true
          answer := .ok (.result ⟨"press", 1, false, 7, none,
            .ofFields [("description", .text "Press the button")]⟩) })]
    {} .empty

/-- Commands that are only named. -/
def bareCommands (names : List String) : Source :=
  .value (.list (names.map fun name => .ofFields [("command", .text name)]))

/-- The failures of a run that goes on to a command nobody executes are listed; a run of which
nothing fails has no such section. -/
theorem faltering_run_lists_its_failures :
    let executed := Part.engine.handleExecute ⟨[], .empty⟩ .null
      (bareCommands ["open", "press", "seek"]) .null .null falteringRun
    let tested := Part.engine.handleTest pagedLoader everyPage pagedInput pagedRun
    (∃ t run, executed.1 = .ok t ∧ t.result = some run ∧ run.errorCount = 2 ∧
      testText executed.2.scene.store false t =
        "❌ Test FAILED\n   Steps: 1/3 succeeded\n   Duration: 0ms\n\n❌ Failed steps:\n" ++
          "   [Step 2] Press the button\n      Error: unknown error\n" ++
          "   [Step 3] seek\n      Error: Unknown command type: seek" ∧
      ∃ p : Parts, p.MakeUp executed.2.scene.store t run ∧ failuresHeading ∈ p.full) ∧
    ∃ t run, tested.1 = .ok t ∧ t.result = some run ∧ run.errorCount = 0 ∧
      testText tested.2.scene.store false t =
        "✅ Test PASSED\n   Steps: 1/1 succeeded\n   Duration: 0ms" ∧
      ∃ p : Parts, p.MakeUp tested.2.scene.store t run ∧ failuresHeading ∉ p.full := by
  intro executed tested
  have hleave : Part.engine.collaborators.Keeps fun s => s.context.results :=
    Part.collaborators_keeps fun _ _ => rfl
  obtain ⟨_, hexecutes⟩ := reports_list_exactly_failures Part.engine ⟨[], .empty⟩ hleave
  obtain ⟨htests, _⟩ := reports_list_exactly_failures Part.engine pagedLoader hleave
  have hexecuted : executed.1.toOption.map (fun t =>
      (t.result.map RunResult.errorCount, testText executed.2.scene.store false t)) =
      some (some 2,
        "❌ Test FAILED\n   Steps: 1/3 succeeded\n   Duration: 0ms\n\n❌ Failed steps:\n" ++
          "   [Step 2] Press the button\n      Error: unknown error\n" ++
          "   [Step 3] seek\n      Error: Unknown command type: seek") := by
    decide +kernel
  have htested : tested.1.toOption.map (fun t =>
      (t.result.map RunResult.errorCount, testText tested.2.scene.store false t)) =
      some (some 0, "✅ Test PASSED\n   Steps: 1/1 succeeded\n   Duration: 0ms") := by
    simp only [tested, handleTest]
    rw [show pagedLoader.loadFile pagedInput.configPath = _ from loadFile_pagedLoader]
    decide +kernel
  obtain ⟨t, hreport, hseen⟩ := Option.map_eq_some_iff.mp hexecuted
  obtain ⟨hcount, htext⟩ := Prod.mk.inj hseen
  obtain ⟨run, hrun, herrors⟩ := Option.map_eq_some_iff.mp hcount
  have ht := eq_ok_of_toOption hreport
  obtain ⟨t', hreport', hseen'⟩ := Option.map_eq_some_iff.mp htested
  obtain ⟨hcount', htext'⟩ := Prod.mk.inj hseen'
  obtain ⟨run', hrun', herrors'⟩ := Option.map_eq_some_iff.mp hcount'
  have ht' := eq_ok_of_toOption hreport'
  refine ⟨⟨t, run, ht, hrun, herrors, htext, ?_⟩, t', run', ht', hrun', herrors', htext', ?_⟩
  · obtain ⟨config, opened, _, hone, htallies, htexts⟩ := hexecutes _ _ _ _ _ t run ht hrun
    obtain ⟨p, hparts, hheading⟩ := htexts executed.2.scene.store
    refine ⟨p, hparts, ?_⟩
    rw [hheading p.full (by simp), ← hone.exists_failed_iff, htallies.exists_failed_iff, herrors]
    decide
  · obtain ⟨config, opened, _, hone, htallies, htexts⟩ := htests _ _ _ t' run' ht' hrun'
    obtain ⟨p, hparts, hheading⟩ := htexts tested.2.scene.store
    refine ⟨p, hparts, ?_⟩
    rw [hheading p.full (by simp), ← hone.exists_failed_iff, htallies.exists_failed_iff, herrors']
    decide

end Engine

end Playbook
