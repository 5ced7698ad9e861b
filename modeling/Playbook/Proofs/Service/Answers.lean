import Playbook.Proofs.Config.Interpolation
import Playbook.Proofs.Json.Accounts
import Playbook.Proofs.Json.Standard
import Playbook.Proofs.Operation.Failures
import Playbook.Service

/-!
What becomes of a request to run a configuration. Once the configuration is loaded only hazards keep
its run from coming to an account: the context of such a run passes its check, and it has no cookie
jar. The account is written into the answer after the run, though, and payloads of results are
free-form. A payload that holds something opaque is not written, and then there is no answer at all,
however the run went.
-/

namespace Playbook

variable {κ σ : Type}

open Schema Schema.Check

/-! ### Configurations that were loaded -/

/-- A configuration has a command at least. -/
theorem Config.commands_ne_nil {lookup : Lookup} {entries : Entries} {c : Config}
    (h : Config.ofEntries lookup entries = .pass c) : c.commands ≠ [] := by
  obtain ⟨_, _, _, _, v, _, hcommands⟩ := Config.ofEntries_eq_pass_iff.mp h
  obtain ⟨commands, _, hrule⟩ := andThen_eq_pass_iff.mp hcommands
  split at hrule
  · cases hrule
  · rename_i hsome
    obtain rfl := Check.pass.inj hrule
    simpa using hsome

/-- What a text is loaded as was checked as a mapping. -/
theorem Loader.parseYaml_eq_ok {l : Loader} {text : String} {c : Config}
    (h : l.parseYaml text = .ok c) : ∃ entries, Loader.check .none (.map entries) = .ok c := by
  cases hread : l.around.read text with
  | error p =>
    rw [Loader.parseYaml, hread] at h
    cases h
  | ok document =>
    cases document with
    | map entries =>
      rw [Loader.parseYaml_of_map hread, Template.expandValue_eq] at h
      cases hfirst : (Value.map entries).texts.findSome? (Template.failure? l.environment) with
      | some unset =>
        rw [hfirst] at h
        cases h
      | none =>
        rw [hfirst] at h
        cases hcheck : Loader.check .none
            ((Value.map entries).mapTexts (Template.filled l.environment)) with
        | error err =>
          simp only [Template.settled, hcheck] at h
          cases h
        | ok found =>
          simp only [Template.settled, hcheck] at h
          obtain rfl : found = c := Except.ok.inj h
          exact ⟨_, hcheck⟩
    | _ =>
      rw [Loader.parseYaml, hread] at h
      cases h

namespace Service

variable {e : Engine κ σ} {loader : Loader} {request : Request} {r : Run κ σ}
  {submission : Submission} {overrides : Overrides} {config : Config} {store : Store κ}
  {result : RunResult} {fw : Framework κ} {hz : Hazards κ σ} {limits : Json.Limits}

theorem Submission.load_eq_ok {c : Config} (h : submission.load loader = some (.ok c)) :
    ∃ entries, Config.ofEntries .none entries = .pass c := by
  have hchecked {entries : Entries} (hcheck : Loader.check .none (.map entries) = .ok c) :
      ∃ entries, Config.ofEntries .none entries = .pass c :=
    ⟨entries, Loader.check_eq_ok_iff.mp hcheck⟩
  obtain ⟨yaml, config, commands⟩ := submission
  cases yaml with
  | some text =>
    obtain ⟨entries, hcheck⟩ := Loader.parseYaml_eq_ok (Option.some.inj h)
    exact hchecked hcheck
  | none =>
    cases config with
    | some entries =>
      cases hcheck : Loader.check .none (.map entries) with
      | error err => simp [Submission.load, hcheck] at h
      | ok found =>
        obtain rfl : found = c := by simpa [Submission.load, hcheck] using h
        exact hchecked hcheck
    | none =>
      cases commands with
      | none => cases h
      | some row =>
        cases hcheck : Loader.checkCommands .none (row.map .map) with
        | error err => simp [Submission.load, hcheck] at h
        | ok found =>
          obtain rfl : found = c := by simpa [Submission.load, hcheck] using h
          exact hchecked hcheck

/-! ### The context of a run -/

/-- The context that a request sets up. -/
def Overrides.opened (o : Overrides) : Context :=
  { backend := .remote, baseUrl := o.baseUrl, timeout := Context.orNull .int o.timeout
    continueOnError := Context.orNull .bool o.continueOnError }

theorem buildContext_overrides (store : Store κ) (o : Overrides) :
    buildContext store (.value o.context) = .ok o.opened := by
  obtain ⟨baseUrl, timeout, goOn⟩ := o
  have hchecked : ∃ assigned, ContextObject.check 0 store.lookup
      (Overrides.context ⟨baseUrl, timeout, goOn⟩) =
        .pass ⟨Overrides.opened ⟨baseUrl, timeout, goOn⟩, assigned⟩ := by
    cases baseUrl <;> cases timeout <;> cases goOn <;> exact ⟨_, rfl⟩
  obtain ⟨assigned, hpass⟩ := hchecked
  exact (Engine.buildContext_of_checked hpass).1

/-- Without a session there is no cookie jar to protect. -/
theorem patternSetter?_of_no_session {s : Scene κ σ} (h : s.context.requestResult = .null) :
    s.patternSetter? config = none := by
  unfold Scene.patternSetter?
  split
  · rw [h]
    rfl
  · rfl

theorem answer_eq_execute (hroute : routeOf? (normalPath request.path) = some .execute)
    (hmethod : request.method = "POST") :
    answer e (some loader) request r fw hz = execute e loader request.body r fw hz := by
  unfold answer
  rw [hroute]
  dsimp only
  rw [if_neg (by simp [hmethod, Route.method])]

/-- With a configuration that was loaded, what is answered depends on its run alone. -/
theorem execute_of_loaded {body : Body}
    (hbody : (bodyValue body fw.read).andThen executeRequest = .pass (submission, overrides))
    (hload : submission.load loader = some (.ok config)) :
    let ran := e.runInContext config (r.withContext fun _ => overrides.opened) hz
    execute e loader body r fw hz =
      (match ran.1 with
        | .error err => .ok (detail 500 (.text (operationMessage err)))
        | .ok result => written fw ran.2.scene.store (result.toRecord none), ran.2) := by
  intro ran
  have hconfig : e.runConfig config (.value overrides.context) r hz = ran := by
    unfold Engine.runConfig
    rw [buildContext_overrides]
  unfold execute
  rw [hbody]
  simp only [hload, hconfig]
  clear_value ran
  obtain ⟨outcome, after⟩ := ran
  cases outcome <;> rfl

end Service

/-! ### Runs amid hazards -/

namespace Engine

variable {e : Engine κ σ} {hz : Hazards κ σ} {config : Config} {r : Run κ σ} {f : Failure}

/-- What a run in a context without a cookie jar raises: what keeps its cookies from being looked
at, or a hazard that it meets. -/
inductive Raises (e : Engine κ σ) (hz : Hazards κ σ) (config : Config) (r : Run κ σ) :
    Failure → Prop
  | hindered {f : Failure} (failed : hz.unprotected? config r.scene = some f) :
      Raises e hz config r f
  | met {f : Failure} {s : Run κ σ} (unhindered : hz.unprotected? config r.scene = none)
      (met : e.Meets hz config (e.opening config r) f s) : Raises e hz config r f

theorem runInContext_of_raises (hprotect : (e.protectCookies config r).1 = .ok ())
    (h : e.Raises hz config r f) : ∃ err, (e.runInContext config r hz).1 = .error err ∧
      Service.operationMessage err = f.text := by
  cases h with
  | hindered failed => exact ⟨.hindered f, by rw [runInContext_of_hindered failed], rfl⟩
  | met unhindered met =>
    refine ⟨.raised f, ?_, rfl⟩
    rw [runInContext_of_shielded unhindered hprotect, execute_of_meets met]
    rfl

theorem not_raises_never : ¬ e.Raises .never config r f := by
  intro h
  cases h with
  | hindered failed =>
    rw [unprotected?_never] at failed
    cases failed
  | met _ met =>
    exact not_meets (unwritten?_never _ _) (fun _ => rfl) (fun _ _ => rfl) (fun _ _ => rfl) met

/-- A run that raises nothing goes as if there were no hazards. -/
theorem runInContext_of_not_raises (hprotect : (e.protectCookies config r).1 = .ok ())
    (h : ∀ f, ¬ e.Raises hz config r f) :
    hz.unprotected? config r.scene = none ∧
      e.runInContext config r hz = e.runInContext config r := by
  have hfree : hz.unprotected? config r.scene = none :=
    Option.eq_none_iff_forall_ne_some.mpr fun f failed => h f (.hindered failed)
  refine ⟨hfree, ?_⟩
  rw [runInContext_of_shielded hfree hprotect,
    runInContext_of_shielded (unprotected?_never _ _) hprotect,
    execute_of_not_meets fun f s hmet => h f (.met hfree hmet)]

end Engine

/-! ### Payloads that are opaque -/

namespace Store

variable {s : Store κ} {v : Value}

/-- What reports an opaque object under a name is opaque itself or shows that object. -/
theorem displays_of_field {h : Handle} {name : String} (hfield : s.field v name = .handle h)
    (hobject : s.IsOpaque (.handle h)) : s.Displays s.IsOpaque v := by
  have hpart {w : Value} (hmem : w ∈ s.parts v) (hw : w = .handle h) : s.Displays s.IsOpaque v :=
    .part hmem (hw ▸ .here hobject)
  have hentry {entries : Entries} (hopened : s.opened v = .map entries)
      (hget : (entries.getText? name).getD .null = .handle h) : s.Displays s.IsOpaque v := by
    cases hfound : entries.getText? name with
    | none =>
      rw [hfound] at hget
      cases hget
    | some w =>
      rw [hfound] at hget
      refine hpart ?_ hget
      rw [parts, hopened]
      exact List.mem_map_of_mem (Entries.mem_of_getText?_eq_some hfound)
  cases v with
  | map entries => exact hentry rfl hfield
  | frozenMap | callable => exact .here trivial
  | handle k =>
    cases hwritten : s.written? k with
    | none => exact .here hwritten
    | some entries =>
      obtain ⟨c, hcell, hshape, rfl⟩ := written?_eq_some_iff.mp hwritten
      refine hentry (opened_of_written hwritten) ?_
      have hlookup : s.lookup k = some c.fields := by
        simp [lookup, hcell, hshape, Shape.isMapping]
      unfold field at hfield
      rwa [Value.entries?, hlookup] at hfield
  | record type slots =>
    change (((Value.slot? slots name).map Member.plain).map Member.value).getD .null = _ at hfield
    cases hfound : slots.find? fun e => e.1.name == name with
    | none =>
      rw [Value.slot?, hfound] at hfield
      cases hfield
    | some e =>
      rw [Value.slot?, hfound] at hfield
      exact hpart (List.mem_map_of_mem (List.mem_of_find?_eq_some hfound)) hfield
  | _ => cases hfield

end Store

namespace Service

variable {e : Engine κ σ} {loader : Loader} {request : Request} {r : Run κ σ}
  {submission : Submission} {overrides : Overrides} {config : Config} {store : Store κ}
  {result : RunResult} {fw : Framework κ} {hz : Hazards κ σ} {limits : Json.Limits}

/-! ### Accounts as answers -/

/-- An answer accounts for a run: it tells its success and its counts, and has one entry for each
result that was recorded, in their order. -/
def Accounts (fw : Framework κ) (store : Store κ) (recorded : List CommandResult)
    (result : RunResult) (response : Response) : Prop :=
  ∃ entries, List.Forall₂ (fw.encoder.Tells store) recorded entries ∧
    response = ⟨200, .json (result.document none entries)⟩

theorem accounts_of_written (laws : fw.encoder.Laws limits) {response : Response}
    (hwritten : written fw store (result.toRecord none) = .ok response) :
    Accounts fw store result.results result response := by
  unfold written at hwritten
  split at hwritten
  · rename_i j hj
    obtain ⟨entries, heach, rfl⟩ := laws.document_of_write hj
    exact ⟨entries, heach, (Except.ok.inj hwritten).symm⟩
  · cases hwritten

theorem written_of_writes {v : Value} (h : fw.encoder.Writes store v) :
    ∃ response, written fw store v = .ok response := by
  obtain ⟨j, hj⟩ := h
  exact ⟨⟨200, .json j⟩, by rw [written, hj]⟩

theorem written_of_not_writes {v : Value} (h : ¬ fw.encoder.Writes store v) :
    ∃ f, written fw store v = .error (.document f) := by
  unfold written
  cases hj : fw.encoder.write store v with
  | error f => exact ⟨f, rfl⟩
  | ok j => exact absurd ⟨j, hj⟩ h

/-- A run that was asked for raises something or comes to an account, and the answer depends on
that alone. -/
theorem answer_comes_to_account (hroute : routeOf? (normalPath request.path) = some .execute)
    (hmethod : request.method = "POST")
    (hbody : (bodyValue request.body fw.read).andThen executeRequest =
      .pass (submission, overrides))
    (hload : submission.load loader = some (.ok config))
    (hclock : Clock.InRange r.scene.clock
      (answer e (some loader) request r fw hz).2.scene.clock) :
    let opened := r.withContext fun _ => overrides.opened
    let ended := answer e (some loader) request r fw hz
    (∀ f, e.Raises hz config opened f → ended.1 = .ok (detail 500 (.text f.text))) ∧
      ((∀ f, ¬ e.Raises hz config opened f) → ∃ result,
        e.runInContext config opened = (.ok result, ended.2) ∧
          Engine.Tallies config.commands.length ended.2.scene.context.results result ∧
          ended.1 = written fw ended.2.scene.store (result.toRecord none)) := by
  intro opened ended
  have hended : ended = _ :=
    (answer_eq_execute hroute hmethod).trans (execute_of_loaded (e := e) (r := r) hbody hload)
  have hprotect : e.protectCookies config opened = (.ok (), opened) :=
    Engine.protectCookies_of_none (patternSetter?_of_no_session rfl)
  have hshielded := congrArg Prod.fst hprotect
  constructor
  · intro f hraises
    obtain ⟨err, hfails, hmessage⟩ := Engine.runInContext_of_raises hshielded hraises
    rw [hended]
    simp only [opened, hfails, hmessage]
  · intro hnone
    obtain ⟨hfree, hplain⟩ := Engine.runInContext_of_not_raises hshielded hnone
    have hafter : ended.2 = (e.runInContext config opened hz).2 := congrArg Prod.snd hended
    rcases Engine.runInContext_meets_or_returns hfree hshielded (by
      rw [hprotect, ← hafter]
      exact hclock) with ⟨f, s, hmet⟩ | ⟨result, hreturn, htallies⟩
    · exact absurd (.met hfree hmet) (hnone f)
    · rw [← hafter] at htallies
      refine ⟨result, ?_, htallies, ?_⟩
      · rw [← hplain, hafter, ← hreturn]
      · rw [hended]
        simp only [opened, hreturn]

/-- What the payload of a recorded result shows is shown by the account of the run, and what cannot
be written is in the way of the answer. -/
theorem written_of_displayed (laws : fw.encoder.Laws limits) {P : Value → Prop}
    (hrefuses : ∀ v, P v → ¬ fw.encoder.Writes store v) {entry : CommandResult}
    (hmem : entry ∈ result.results) (hdisplays : store.Displays P entry.data) :
    ∃ f, written fw store (result.toRecord none) = .error (.document f) :=
  written_of_not_writes
    (laws.not_writes_of_displays hrefuses (result.displays_of_payload hmem hdisplays none))

/-- A run that was asked for is answered unless a payload is in the way, however answers are
written. Once its configuration is loaded, and with times in range, a failure that is raised on the
way is an answer with the status 500. Otherwise the run goes as if nothing could be raised and comes
to an account of what it recorded: with one result for each attempted command, as far as executors
leave the results alone. Any answer then accounts for the run. There is one when the account is
plain data within the limits of the writer. There is none when a payload shows an opaque object at
any depth, whether or not its command succeeded, and so it is for every payload that reports a new
window which is an opaque object. -/
theorem executions_are_answered_but_for_payloads (e : Engine κ σ) (loader : Loader)
    (request : Request) (r : Run κ σ) (fw : Framework κ) (hz : Hazards κ σ)
    (limits : Json.Limits) (laws : fw.encoder.Laws limits) (hrefuses : fw.encoder.RefusesOpaque)
    (hroute : routeOf? (normalPath request.path) = some .execute) (hmethod : request.method = "POST")
    (hbody : (bodyValue request.body fw.read).andThen executeRequest =
      .pass (submission, overrides))
    (hload : submission.load loader = some (.ok config))
    (hclock : Clock.InRange r.scene.clock
      (answer e (some loader) request r fw hz).2.scene.clock) :
    let opened := r.withContext fun _ => overrides.opened
    let ended := answer e (some loader) request r fw hz
    let recorded := ended.2.scene.context.results
    let store := ended.2.scene.store
    (∀ f, e.Raises hz config opened f → ended.1 = .ok (detail 500 (.text f.text))) ∧
      ((∀ f, ¬ e.Raises hz config opened f) →
        ∃ result, e.runInContext config opened = (.ok result, ended.2) ∧
          Engine.Tallies config.commands.length recorded result ∧
          (∀ response, ended.1 = .ok response → Accounts fw store recorded result response) ∧
          (limits.allows store limits.depth (result.toRecord none) = true →
            ∃ response, ended.1 = .ok response) ∧
          (∀ entry ∈ recorded, store.Displays store.IsOpaque entry.data →
            ∃ f, ended.1 = .error (.document f)) ∧
          (∀ entry ∈ recorded, ∀ h, store.field entry.data "newWindow" = .handle h →
            store.IsOpaque (.handle h) → ∃ f, ended.1 = .error (.document f)) ∧
          (e.collaborators.Keeps (fun s => s.context.results) →
            let row := e.attempts config (e.opening config opened)
            recorded = row.map Attempt.result ∧ Engine.Records config.commands [] row ∧
              Engine.EndsAtHalt config.commands row)) := by
  intro opened ended recorded store
  obtain ⟨hraised, hreturned⟩ := answer_comes_to_account hroute hmethod hbody hload hclock
  refine ⟨hraised, fun hnone => ?_⟩
  obtain ⟨result, hran, htallies, hanswer⟩ := hreturned hnone
  have hrecorded : result.results = recorded := htallies.results
  have hopaque {entry : CommandResult} (hentry : entry ∈ recorded)
      (hshows : store.Displays store.IsOpaque entry.data) :
      ∃ f, ended.1 = .error (.document f) := by
    rw [hanswer]
    exact written_of_displayed laws (hrefuses store) (hrecorded ▸ hentry) hshows
  refine ⟨result, hran, htallies, ?_, ?_, fun _ => hopaque, ?_, ?_⟩
  · intro response hresponse
    rw [← hrecorded]
    exact accounts_of_written laws (hanswer.symm.trans hresponse)
  · intro hallow
    rw [hanswer]
    exact written_of_writes (laws.writes_of_allows hallow (Nat.le_refl _))
  · intro entry hentry h hwindow hobject
    exact hopaque hentry (Store.displays_of_field hwindow hobject)
  · intro hleave row
    have hone := Engine.ofOneRun_of_runInContext hleave (r := opened) rfl
      (congrArg Prod.fst hran)
    obtain ⟨entries, hentries⟩ := Submission.load_eq_ok hload
    have hrecords := hone.plays.records (Config.commands_ne_nil hentries) hleave
    rw [hone.clean] at hrecords
    exact ⟨hrecorded.symm.trans hone.results, hrecords, hone.plays.endsAtHalt⟩

/-- A request to run one command, which loads without a loader's help. -/
def navigation : Request :=
  ⟨"POST", "/api/v1/execute",
    .value (.ofFields [("commands", .list [.ofFields [("command", .text "navigate")]])])⟩

/-- A run in which that command succeeds with a payload, among the windows that there are. -/
def navigatingRun (payload : List (String × Value)) : Run Part Unit :=
  Part.stage [("navigate", Part.reporting true payload)] {}
    { cells := [(.named "window", ⟨.object, [], []⟩)] }

theorem navigation_loads :
    (bodyValue navigation.body Json.read).andThen executeRequest =
        .pass (⟨none, none, some [[(.text "command", .text "navigate")]]⟩, ⟨none, none, none⟩) ∧
      Submission.load ⟨none, none, some [[(.text "command", .text "navigate")]]⟩ ⟨[], .empty⟩ =
        some (.ok (Config.ofNames ["navigate"])) :=
  ⟨rfl, rfl⟩

/-- Room for what commands usually report. -/
def roomy : Json.Limits := ⟨9, 18, fun _ => true⟩

/-- What is answered to a command that reports a title, and to one that reports a new window. -/
theorem title_is_answered_and_window_is_not :
    let titled := answer Part.engine (some ⟨[], .empty⟩) navigation
      (navigatingRun [("title", .text "start")])
    let moved := answer Part.engine (some ⟨[], .empty⟩) navigation
      (navigatingRun [("newWindow", .handle (.named "window"))])
    (∃ (result : RunResult) (entries : List Json), result.success = true ∧ entries.length = 1 ∧
        titled.1 = .ok ⟨200, .json (result.document none entries)⟩) ∧
      moved.2.scene.context.results.map CommandResult.success = [true] ∧
      ∃ f, moved.1 = .error (.document f) := by
  intro titled moved
  obtain ⟨hbody, hload⟩ := navigation_loads
  have hroute : routeOf? (normalPath navigation.path) = some .execute := by decide
  have hended (payload : List (String × Value)) :
      answer Part.engine (some ⟨[], .empty⟩) navigation (navigatingRun payload) = _ :=
    (answer_eq_execute hroute rfl).trans (execute_of_loaded hbody hload)
  have hnow : Clock.InRange 1000.0 1000.0 := ⟨⟨_, rfl⟩, ⟨_, rfl⟩⟩
  have hanswered (payload : List (String × Value))
      (htime : (answer Part.engine (some ⟨[], .empty⟩) navigation
        (navigatingRun payload)).2.scene.clock = 1000.0) :=
    (executions_are_answered_but_for_payloads Part.engine ⟨[], .empty⟩ navigation
      (navigatingRun payload) {} .never roomy (Json.Encoder.standard_laws false roomy)
      Json.Encoder.strict_refusesOpaque hroute rfl hbody hload
      (by rw [htime]; exact hnow)).2 fun f => Engine.not_raises_never
  obtain ⟨result, hran, htallies, haccounts, hwritten, _⟩ :=
    hanswered [("title", .text "start")] (by rw [hended]; rfl)
  obtain ⟨_, _, _, _, _, _, hwindows, _⟩ :=
    hanswered [("newWindow", .handle (.named "window"))] (by rw [hended]; rfl)
  have hrecorded : moved.2.scene.context.results =
      [⟨"", 0, true, 0, none, .ofFields [("newWindow", .handle (.named "window"))]⟩] := by
    rw [show moved = _ from hended _]
    rfl
  have hfound : moved.2.scene.store.written? (.named "window") = none := by
    rw [show moved = _ from hended _]
    rfl
  refine ⟨?_, by rw [hrecorded]; rfl, ?_⟩
  · have hallow : (Part.engine.runInContext (Config.ofNames ["navigate"])
        ((navigatingRun [("title", .text "start")]).withContext fun _ =>
          Overrides.opened ⟨none, none, none⟩)).1.toOption.map (fun account =>
        (account.success, roomy.allows titled.2.scene.store roomy.depth
          (account.toRecord none))) = some (true, true) := by
      rw [show titled = _ from hended _]
      decide +kernel
    rw [hran] at hallow
    obtain ⟨hsuccess, hallowed⟩ := Prod.mk.inj (Option.some.inj hallow)
    obtain ⟨response, hresponse⟩ := hwritten hallowed
    obtain ⟨entries, heach, rfl⟩ := haccounts response hresponse
    refine ⟨result, entries, hsuccess, ?_, hresponse⟩
    rw [← heach.length_eq, show titled.2.scene.context.results.length = 1 by
      rw [show titled = _ from hended _]
      rfl]
  · exact hwindows _ (hrecorded ▸ List.mem_cons_self) (.named "window") rfl hfound

/-- A command that succeeds and reports the window it has opened, as a command that replaces the
window is meant to: the window is put in place, and the request is not answered. -/
theorem reported_window_counterexample :
    let ended := answer Part.engine (some ⟨[], .empty⟩) navigation
      (navigatingRun [("newWindow", .handle (.named "window"))])
    (∃ submission overrides config,
      (bodyValue navigation.body).andThen executeRequest = .pass (submission, overrides) ∧
        submission.load ⟨[], .empty⟩ = some (.ok config)) ∧
      ended.2.scene.context.window = .handle (.named "window") ∧
      ended.2.scene.context.results.map CommandResult.success = [true] ∧
      ended.1 = .error (.document .opaqueObject) := by
  intro ended
  obtain ⟨hbody, hload⟩ := navigation_loads
  have hended : ended = _ :=
    (answer_eq_execute (by decide) rfl).trans (execute_of_loaded hbody hload)
  rw [hended]
  exact ⟨⟨_, _, _, hbody, hload⟩, rfl, rfl, rfl⟩

end Service

end Playbook
