import Playbook.Proofs.Engine.Accounting
import Playbook.Proofs.Operation.FreshContext

/-!
Operations and the contexts of their callers. A run has a context object of its own, so that nothing
that happens to it, by the engine or by those that the engine calls, happens to an object that was
there before; and what earlier runs have left in the caller's object is not handed on. A mapping and
the object that a check makes of it lead to one and the same run.
-/

namespace Playbook

variable {κ σ : Type}

namespace Engine

variable {e : Engine κ σ} {loader : Loader} {source : Source} {r : Run κ σ} {config : Config}
  {contexts : List ContextObject}

/-! ### What an operation goes by -/

/-- Two inputs of which the same context is built lead to the same run. -/
theorem executeOperation_congr {first second : ContextInput}
    (h : buildContext r.scene.store first = buildContext r.scene.store second) :
    e.executeOperation loader first source r = e.executeOperation loader second source r := by
  unfold executeOperation runConfig
  rw [h]

theorem operate_congr {first second : ContextArgument}
    (h : buildContext r.scene.store (first.read contexts) =
      buildContext r.scene.store (second.read contexts)) :
    e.operate loader first source contexts r = e.operate loader second source contexts r := by
  unfold operate
  rw [h]

/-- Among context objects an operation comes to what it comes to without them. -/
theorem operate_eq_executeOperation (e : Engine κ σ) (loader : Loader) (argument : ContextArgument)
    (source : Source) (contexts : List ContextObject) (r : Run κ σ) :
    let after := e.operate loader argument source contexts r
    (after.outcome, after.run) = e.executeOperation loader (argument.read contexts) source r := by
  unfold operate executeOperation
  cases loader.loadOperation r.scene.store.lookup source with
  | error err => rfl
  | ok config =>
    unfold runConfig
    dsimp only
    cases buildContext r.scene.store (argument.read contexts) with
    | error err => rfl
    | ok context => rfl

theorem operate_keeps_objects (e : Engine κ σ) (loader : Loader) (argument : ContextArgument)
    (source : Source) (r : Run κ σ) {place : Nat} {o : ContextObject}
    (h : contexts[place]? = some o) :
    (e.operate loader argument source contexts r).contexts[place]? = some o := by
  unfold operate
  cases loader.loadOperation r.scene.store.lookup source with
  | error err => exact h
  | ok config =>
    dsimp only
    cases buildContext r.scene.store (argument.read contexts) with
    | error err => exact h
    | ok context =>
      -- The object of the run stands behind all of them.
      have hplace : place < contexts.length := (List.getElem?_eq_some_iff.mp h).1
      rw [List.getElem?_set_ne (by omega), List.getElem?_append_left hplace]
      exact h

/-! ### Contexts of one run -/

theorem results_of_freshContext {μ : Type} {store : Store μ} {entries : Entries} {c : Context}
    (h : freshContext store entries = .ok c) : c.results = [] := by
  unfold freshContext at h
  rw [check_map] at h
  split at h
  · rename_i built hpass
    obtain rfl := Except.ok.inj h
    have hresults := (Context.ofEntries_eq_pass_iff.mp hpass).2.1
    rw [Context.getText?_cleared, if_neg (by decide), if_pos rfl] at hresults
    exact (Schema.Check.pass.inj hresults).symm
  · cases h

theorem results_of_buildContext {μ : Type} {store : Store μ} {input : ContextInput} {c : Context}
    (h : buildContext store input = .ok c) : c.results = [] := by
  cases input with
  | nothing =>
    obtain rfl := Except.ok.inj h
    rfl
  | context o => exact results_of_freshContext h
  | value v =>
    unfold buildContext at h
    dsimp only at h
    split at h
    · cases h
    · exact results_of_freshContext h

section Cookies

variable {α : Type} {f : Scene κ σ → α}

theorem callSetter_keeps (hkeep : e.collaborators.Keeps f) (jar : Value) (name : String)
    (setter : Store.Member κ) (patterns : Value) (r : Run κ σ) :
    f (e.callSetter jar name setter patterns r).2.scene = f r.scene := by
  unfold callSetter
  split
  · rename_i h routine
    split
    · rfl
    · have hcall := hkeep.invoke routine h name [patterns] r.scene
      split
      · rename_i hmade
        exact (congrArg (fun made => f made.2.scene) hmade).symm.trans hcall
      · rename_i hmade
        exact (congrArg (fun made => f made.2.scene) hmade).symm.trans hcall
  · rfl
  · rfl

theorem protectCookies_keeps (hkeep : e.collaborators.Keeps f) (config : Config) (r : Run κ σ) :
    f (e.protectCookies config r).2.scene = f r.scene := by
  unfold protectCookies
  dsimp only
  split
  · rfl
  · split
    · rfl
    · rename_i name setter _
      have hcall := callSetter_keeps hkeep
        (r.scene.store.cookieJar r.scene.context.requestResult) name setter
        (r.scene.store.cookiePatterns config) r
      split
      · rename_i hmade
        rw [hmade] at hcall
        exact hcall
      · rename_i hmade
        rw [hmade] at hcall
        split <;> exact hcall

end Cookies

/-- An account of one run of a configuration and of nothing before it. -/
structure OfOneRun (e : Engine κ σ) (config : Config) (opened last : Run κ σ)
    (result : RunResult) : Prop where
  clean : opened.scene.context.results = []
  plays : e.Plays config opened (e.attempts config opened) (.ok ()) last
  results : result.results = (e.attempts config opened).map Attempt.result
  total : result.totalCommands = config.commands.length
  counts : result.successCount + result.errorCount = result.results.length
  length_le : result.results.length ≤ config.commands.length

theorem ofOneRun_of_execute (hleave : e.collaborators.Keeps fun s => s.context.results)
    {opened : Run κ σ} (hclean : opened.scene.context.results = []) {result : RunResult}
    (h : (e.execute config opened).1 = .ok result) :
    OfOneRun e config opened (e.execute config opened).2 result := by
  obtain ⟨hplays, haccount⟩ := plays_of_execute_eq_ok h
  have htallies := account_tallies haccount
  have hrecorded := (Goes.results hplays hleave).2 rfl
  rw [results_prepare, hclean, List.nil_append] at hrecorded
  have hresults : result.results = (e.attempts config opened).map Attempt.result := by
    rw [htallies.results, hrecorded]
  have hlength : result.results.length = (e.attempts config opened).length := by
    rw [hresults, List.length_map]
  refine ⟨hclean, hplays, hresults, htallies.total, ?_, ?_⟩
  · have hsplit := result.results.length_eq_countP_add_countP CommandResult.success
    rw [htallies.successes, htallies.errors, ← htallies.results, hsplit]
    simp
  · rw [hlength]
    exact Goes.length_le hplays

/-- The run that a configuration is run in once cookies are protected: it starts at that time. -/
def opening (e : Engine κ σ) (config : Config) (r : Run κ σ) : Run κ σ :=
  let guarded := (e.protectCookies config r).2
  guarded.withContext fun c => { c with startTime := .float guarded.scene.clock }

theorem unprotected?_never (config : Config) (s : Scene κ σ) :
    (Hazards.never : Hazards κ σ).unprotected? config s = none := by
  have hasking (v : Value) : (Hazards.never : Hazards κ σ).asking v s = none := rfl
  have hasked (asked : List Value) : (asked.findSome? fun _ => (none : Option Failure)) = none := by
    simp
  simp only [Hazards.unprotected?, unwritten?_never, hasking, hasked, ite_self]

/-- The run of a configuration in its context, where nothing is raised. -/
theorem runInContext_never (e : Engine κ σ) (config : Config) (r : Run κ σ) :
    e.runInContext config r =
      match e.protectCookies config r with
      | (.error err, r) => (.error err, r)
      | (.ok _, r) =>
        match e.execute config
          (r.withContext fun c => { c with startTime := .float r.scene.clock }) with
        | (.error err, r) => (.error (.ofEscape err), r)
        | (.ok result, r) => (.ok result, r) := by
  unfold runInContext
  exact unprotected?_never (κ := κ) config r.scene ▸ rfl

theorem ofOneRun_of_runInContext (hleave : e.collaborators.Keeps fun s => s.context.results)
    (hclean : r.scene.context.results = []) {result : RunResult}
    (h : (e.runInContext config r).1 = .ok result) :
    OfOneRun e config (e.opening config r) (e.runInContext config r).2 result := by
  -- The cookie jar is called before the run; it leaves the results alone as everybody does.
  have hopened : (e.opening config r).scene.context.results = [] :=
    (protectCookies_keeps hleave config r).trans hclean
  rw [runInContext_never] at h ⊢
  cases hcookies : e.protectCookies config r with
  | mk outcome guarded =>
    have hopening : e.opening config r =
        guarded.withContext fun c => { c with startTime := .float guarded.scene.clock } := by
      unfold opening
      rw [hcookies]
    simp only [hcookies] at h ⊢
    cases outcome with
    | error err => cases h
    | ok done =>
      dsimp only at h ⊢
      rw [← hopening] at h ⊢
      cases hrun : e.execute config (e.opening config r) with
      | mk outcome last =>
        simp only [hrun] at h ⊢
        cases outcome with
        | error f => cases h
        | ok account =>
          obtain rfl := Except.ok.inj h
          have hreturn : (e.execute config (e.opening config r)).1 = .ok account := by rw [hrun]
          have hone := ofOneRun_of_execute hleave hopened hreturn
          rw [hrun] at hone
          exact hone

theorem executeOperation_eq_ok {input : ContextInput} {result : RunResult}
    (h : (e.executeOperation loader input source r).1 = .ok result) :
    ∃ config context, loader.loadOperation r.scene.store.lookup source = .ok config ∧
      buildContext r.scene.store input = .ok context ∧
      e.executeOperation loader input source r =
        e.runInContext config (r.withContext fun _ => context) := by
  unfold executeOperation runConfig at h ⊢
  cases hload : loader.loadOperation r.scene.store.lookup source with
  | error err =>
    rw [hload] at h
    cases h
  | ok config =>
    rw [hload] at h
    dsimp only at h ⊢
    cases hbuild : buildContext r.scene.store input with
    | error err =>
      rw [hbuild] at h
      cases h
    | ok context => exact ⟨config, context, rfl, rfl, rfl⟩

end Engine

/-! ### Objects of callers -/

/-- Two context objects hold the same, but for the results and the start time of earlier runs. -/
structure ContextObject.SameButHistory (o other : ContextObject) : Prop where
  content : other.content.withoutHistory = o.content.withoutHistory
  assigned : ∀ name, name ≠ "results" → name ≠ "start_time" →
    (name ∈ other.assigned ↔ name ∈ o.assigned)

/-- What earlier runs have left in an object is not read. -/
theorem ContextObject.SameButHistory.freshContext_eq {μ : Type} {store : Store μ}
    {o other : ContextObject} (h : o.SameButHistory other) :
    freshContext store other.entries = freshContext store o.entries := by
  refine freshContext_congr other.declared_entries o.declared_entries ?_
  intro name hname hresults hstart
  rw [ContextObject.getText?_entries, ContextObject.getText?_entries,
    ← Context.lookup_fields_withoutHistory _ hname hresults hstart,
    ← Context.lookup_fields_withoutHistory o.content hname hresults hstart, h.content]
  simp only [h.assigned name hresults hstart]

namespace Engine

variable {contexts : List ContextObject}

/-- Callers are isolated from the runs that they ask for. Whether an operation returns or not, every
context object that was there, that of the caller among them, is left as it was. What earlier runs
have left in it as results and start time makes no difference to the outcome, nor to anything that
happens on the way; and where executors leave the results alone, the account is one of this run
only. -/
theorem operation_isolates_caller (e : Engine κ σ) (loader : Loader) (source : Source)
    (r : Run κ σ) {place : Nat} {caller : ContextObject} (hcaller : contexts[place]? = some caller) :
    let after := e.operate loader (.object place) source contexts r
    (∀ (n : Nat) (o : ContextObject), contexts[n]? = some o → after.contexts[n]? = some o) ∧
      (∀ (others : List ContextObject) (n : Nat) (other : ContextObject),
        others[n]? = some other → caller.SameButHistory other →
          let again := e.operate loader (.object n) source others r
          buildContext r.scene.store (.context other) =
              buildContext r.scene.store (.context caller) ∧
            again.outcome = after.outcome ∧ again.run = after.run) ∧
      ((e.collaborators.Keeps fun s => s.context.results) →
        ∀ result, after.outcome = .ok result →
          ∃ config context, loader.loadOperation r.scene.store.lookup source = .ok config ∧
            buildContext r.scene.store (.context caller) = .ok context ∧
            OfOneRun e config (e.opening config (r.withContext fun _ => context)) after.run
              result) := by
  intro after
  have hafter := operate_eq_executeOperation e loader (.object place) source contexts r
  have hread : ContextArgument.read contexts (.object place) = .context caller := by
    simp only [ContextArgument.read, hcaller]
  rw [hread] at hafter
  refine ⟨fun n o h => operate_keeps_objects e loader _ source r h, ?_, ?_⟩
  · intro others n other hother hsame again
    have hagain := operate_eq_executeOperation e loader (.object n) source others r
    have hreadOther : ContextArgument.read others (.object n) = .context other := by
      simp only [ContextArgument.read, hother]
    have hbuild : buildContext r.scene.store (.context other) =
        buildContext r.scene.store (.context caller) := hsame.freshContext_eq
    rw [hreadOther, executeOperation_congr hbuild] at hagain
    have hpair : (again.outcome, again.run) = (after.outcome, after.run) :=
      hagain.trans hafter.symm
    exact ⟨hbuild, congrArg Prod.fst hpair, congrArg Prod.snd hpair⟩
  · intro hleave result hreturn
    have houtcome : (e.executeOperation loader (.context caller) source r).1 = .ok result := by
      rw [← hafter]
      exact hreturn
    obtain ⟨config, context, hload, hbuild, hrun⟩ := executeOperation_eq_ok houtcome
    rw [hrun] at houtcome hafter
    have hone := ofOneRun_of_runInContext hleave (results_of_buildContext hbuild) houtcome
    rw [← hafter] at hone
    exact ⟨config, context, hload, hbuild, hone⟩

/-- An object that a caller has run with before: a failure is left in it, and a time. -/
def usedObject : ContextObject where
  content :=
    { results := [CommandResult.failed "open" 0
        { type := .executionError, message := "gone", selector := none, context := ⟨"", 0⟩
          suggestions := none }]
      startTime := .float 5.0
      continueOnError := .bool true }
  assigned := ["continue_on_error", "results", "start_time"]

def unusedObject : ContextObject where
  content := { continueOnError := .bool true }
  assigned := ["continue_on_error"]

theorem sameButHistory_usedObject : usedObject.SameButHistory unusedObject where
  content := rfl
  assigned name hresults hstart := by simp [usedObject, unusedObject, hresults, hstart]

/-- A run in which the first command raises, after the flag in its context was turned over. -/
def turningRun : Run Part Unit :=
  Part.stage
    [("click", { goOn := some false, answer := .error ⟨"LookupError", "no such element"⟩ }),
      ("read", Part.reporting true [])]
    {} .empty

theorem used_object_is_isolated :
    let source := Source.value (Config.ofNames ["click", "read"]).toRecord
    let after := Part.engine.operate ⟨[], .empty⟩ (.object 0) source [usedObject] turningRun
    let again := Part.engine.operate ⟨[], .empty⟩ (.object 0) source [unusedObject] turningRun
    ∃ result, after.outcome = .ok result ∧
      result.results.map CommandResult.success = [false] ∧
      after.contexts[0]? = some usedObject ∧ again.outcome = after.outcome ∧
      ∃ config opened, OfOneRun Part.engine config opened after.run result := by
  intro source after again
  obtain ⟨hkept, halike, hone⟩ :=
    operation_isolates_caller Part.engine ⟨[], .empty⟩ source turningRun
      (show [usedObject][0]? = some usedObject from rfl)
  obtain ⟨_, hagain, _⟩ := halike [unusedObject] 0 unusedObject rfl sameButHistory_usedObject
  have hleave : Part.engine.collaborators.Keeps fun s => s.context.results :=
    Part.collaborators_keeps fun _ _ => rfl
  have hreturns : after.outcome.toOption.map (fun a => a.results.map CommandResult.success) =
      some [false] := by decide +kernel
  cases hreturn : after.outcome with
  | error err =>
    rw [hreturn] at hreturns
    cases hreturns
  | ok result =>
    rw [hreturn] at hreturns
    have hsuccess : result.results.map CommandResult.success = [false] := Option.some.inj hreturns
    obtain ⟨config, context, _, hbuild, haccount⟩ := hone hleave result hreturn
    exact ⟨result, rfl, hsuccess, hkept 0 usedObject rfl, hagain.trans hreturn, config, _,
      haccount⟩

/-! ### Mappings and objects -/

/-- A mapping and the object that a check makes of it describe the same context: what the check
has made of the mapping, without results and start time. -/
theorem buildContext_of_checked {μ : Type} {store : Store μ} {now : Int} {v : Value}
    {caller : ContextObject} (h : ContextObject.check now store.lookup v = .pass caller) :
    buildContext store (.value v) = .ok caller.content.withoutHistory ∧
      buildContext store (.context caller) = .ok caller.content.withoutHistory ∧
      ∃ entries, v.entries? store.lookup = some entries ∧
        Context.Describes store.lookup entries caller.content := by
  obtain ⟨entries, hentries, hmade⟩ := Schema.Check.andThen_eq_pass_iff.mp h
  have hmapping := recordEntries_eq_pass_iff.mp hentries
  obtain ⟨c, hpass, rfl⟩ := Schema.Check.map_eq_pass_iff.mp hmade
  have hdescribes := (Context.ofEntries_eq_pass_iff.mp hpass).1
  have hpairs : v.pairs store.lookup = .ok entries := by
    unfold Value.pairs
    rw [hmapping]
  refine ⟨?_, ?_, entries, hmapping, hdescribes⟩
  · unfold buildContext
    simp only [hpairs]
    exact freshContext_of_describes hdescribes
  · exact freshContext_of_describes (ContextObject.describes_ofChecked hdescribes)

/-- It makes no difference whether a caller hands over a mapping that describes a context or the
object that a check makes of it: the run, its events, its end and what comes of it are the same. In
both forms the context holds what the check has made of the mapping, and a field that the mapping
does not mention is filled from the settings as if nothing had been said of it. -/
theorem mapping_and_object_run_alike (e : Engine κ σ) (loader : Loader) (source : Source)
    (r : Run κ σ) {now : Int} {v : Value} {caller : ContextObject} {place : Nat}
    (hchecked : ContextObject.check now r.scene.store.lookup v = .pass caller)
    (hcaller : contexts[place]? = some caller) :
    e.operate loader (.value v) source contexts r =
        e.operate loader (.object place) source contexts r ∧
      let context := caller.content.withoutHistory
      buildContext r.scene.store (.value v) = .ok context ∧
        buildContext r.scene.store (.context caller) = .ok context ∧
        ∀ entries, v.entries? r.scene.store.lookup = some entries →
          ∀ name ∈ Context.names, entries.getText? name = none → ∀ settings : Option Settings,
            (context.applyDefaults r.scene.store settings).fields.lookup name =
              (({ window := context.window } : Context).applyDefaults
                r.scene.store settings).fields.lookup name := by
  obtain ⟨hvalue, hobject, entries, hmapping, hdescribes⟩ := buildContext_of_checked hchecked
  have hread : ContextArgument.read contexts (.object place) = .context caller := by
    simp only [ContextArgument.read, hcaller]
  refine ⟨operate_congr ?_, hvalue, hobject, ?_⟩
  · rw [hread, hobject]
    exact hvalue
  · intro others hothers name hname hunset settings
    obtain rfl := Option.some.inj (hmapping.symm.trans hothers)
    have hopen := hdescribes.lookup_unset hname hunset
    refine Context.lookup_applyDefaults _ settings hname rfl ?_
    by_cases hwindow : name = "window"
    · rw [hwindow]
      rfl
    · exact hopen.trans (Context.lookup_fields_window {} _ hname hwindow).symm

/-- A mapping in which nothing is spelled as a context holds it. -/
def spelledContext : Value :=
  .ofFields
    [("backend", .text "cdp"), ("timeout", .text "12"), ("continue_on_error", .text "yes"),
      ("cdp", .ofFields [("mcp_type", .text "http")])]

/-- What a check makes of that mapping. -/
def spelledObject : ContextObject where
  content :=
    { backend := .remote, timeout := .int 12, continueOnError := .bool true
      remote := some ⟨none, some .http, false⟩ }
  assigned := ["backend", "cdp", "timeout", "continue_on_error"]

theorem spelled_context_and_object_run_alike :
    let source := Source.value (Config.ofNames ["click", "read"]).toRecord
    let byValue := Part.engine.operate ⟨[], .empty⟩ (.value spelledContext) source
      [spelledObject] turningRun
    let byObject := Part.engine.operate ⟨[], .empty⟩ (.object 0) source [spelledObject] turningRun
    ContextObject.check 0 turningRun.scene.store.lookup spelledContext = .pass spelledObject ∧
      byValue = byObject ∧
      byObject.outcome.toOption.map (fun a => (a.backend, a.results.map CommandResult.success)) =
        some (some .remote, [false]) ∧
      ∀ settings : Option Settings,
        (spelledObject.content.applyDefaults turningRun.scene.store settings).fields.lookup
            "base_url" =
          (({} : Context).applyDefaults turningRun.scene.store settings).fields.lookup
            "base_url" := by
  intro source byValue byObject
  have hchecked : ContextObject.check 0 turningRun.scene.store.lookup spelledContext =
      .pass spelledObject := rfl
  obtain ⟨halike, _, _, hopen⟩ :=
    mapping_and_object_run_alike Part.engine ⟨[], .empty⟩ source turningRun hchecked
      (show [spelledObject][0]? = some spelledObject from rfl)
  have hfilled := hopen _ rfl "base_url" (by decide) rfl
  exact ⟨hchecked, halike, by decide +kernel, hfilled⟩

end Engine

end Playbook
