import Playbook.Proofs.Engine.Turns
import Playbook.Proofs.Operator.Outcomes

/-!
Where a tried configuration is run. The page that an operator names is the one that is fetched, but
the base URL of the run is not taken from it: that is the one of the settings, or else the URL that
the fetched window reports, and it stays what it is for every command as long as no executor assigns
another. So it is the named page just when the settings have that URL, or have none and the window
reports it.
-/

namespace Playbook

variable {κ σ : Type}

/-- The base URL that a configuration asks for. -/
def Config.baseUrl? (c : Config) : Option String :=
  c.settings.toOption.bind fun s => s.baseUrl.toOption

/-- The URL that the active window reports. -/
def Scene.reportedUrl? (s : Scene κ σ) : Option String := s.store.windowUrl? s.context.window

namespace Engine

variable {e : Engine κ σ} {loader : Loader} {fetch : Fetch κ σ} {input : OperatorInput}
  {config : Config} {url : String} {r : Run κ σ}

/-- A turn in the run of an operation: cookies are protected, and the run that opens then comes to
a command. -/
structure OperationTurn (e : Engine κ σ) (config : Config) (r : Run κ σ) (command : Command)
    (index : Nat) (s : Run κ σ) : Prop where
  guarded : (e.protectCookies config r).1 = .ok ()
  turn : e.Turn (startOf (e.opening config r).scene) config.commands.length 0 config.commands
    (prepare config (e.opening config r)) command index s

/-! ### The base URL of a run -/

/-- Recording results leaves the base URL alone. -/
theorem baseUrl_record (hkeep : e.collaborators.Keeps fun s => s.context.baseUrl)
    (command : Command) (result : CommandResult) (r : Run κ σ) :
    (e.record command result r).scene.context.baseUrl = r.scene.context.baseUrl := by
  unfold record
  dsimp only
  split
  · unfold replaceWindow
    rw [context_adoptState]
    exact releaseReplaced_keeps hkeep _ _ _
  · rfl

/-- An open base URL is filled when the run opens. -/
theorem baseUrl_prepare (hopen : r.scene.context.baseUrl = none) (config : Config) :
    (prepare config r).scene.context.baseUrl =
      some ((Context.orElseText config.baseUrl? r.scene.reportedUrl?).getD "") := by
  have hfill : (prepare config r).scene.context.baseUrl =
      some (r.scene.context.baseUrl.getD
        (Context.defaultBaseUrl r.scene.store r.scene.context.window config.settings.toOption)) :=
    rfl
  rw [hfill, hopen]
  rfl

theorem OperationTurn.baseUrl {command : Command} {index : Nat} {s : Run κ σ}
    (h : e.OperationTurn config r command index s)
    (hkeep : e.collaborators.Keeps fun s => s.context.baseUrl)
    (hopen : r.scene.context.baseUrl = none) :
    s.scene.context.baseUrl = some ((Context.orElseText config.baseUrl?
      (e.opening config r).scene.reportedUrl?).getD "") := by
  have hguarded : (e.opening config r).scene.context.baseUrl = none :=
    (protectCookies_keeps hkeep config r).trans hopen
  rw [← baseUrl_prepare hguarded]
  exact h.turn.keeps hkeep (baseUrl_record hkeep)

/-- Every executor that an operation calls is called at a turn of its run. -/
theorem operationTurn_of_mem_calls {call : Call} (h : call ∈ (e.runInContext config r).2.calls) :
    call ∈ r.calls ∨ ∃ command index s, e.OperationTurn config r command index s ∧
      call = ⟨command.name, index, s.scene.context.window⟩ := by
  have hguarded : (e.protectCookies config r).2.calls = r.calls := by
    unfold Run.calls
    rw [run_protectCookies, trace_callHandover, List.filterMap_append]
    cases e.handover? config r.scene <;> simp [Handover.event, Event.call?]
  cases hprotect : (e.protectCookies config r).1 with
  | error err =>
    rw [runInContext_of_error hprotect, hguarded] at h
    exact .inl h
  | ok _ =>
    rw [runInContext_of_ok hprotect] at h
    obtain ⟨outcome, hplays, _⟩ := plays_attempts e config (e.opening config r)
    have hopened : (prepare config (e.opening config r)).calls = r.calls := hguarded
    rcases Goes.mem_calls hplays h with hbefore | ⟨command, index, s, hturn, hcall⟩
    · exact .inl (hopened ▸ hbefore)
    · exact .inr ⟨command, index, s, ⟨hprotect, hturn⟩, hcall⟩

/-- Where no cookies are to be protected and nobody watches, it is the turn of the first command as
soon as the run has opened. -/
theorem operationTurn_first {command : Command} {rest : List Command}
    (hcommands : config.commands = command :: rest)
    (hpatterns : r.scene.store.isTruthy (r.scene.store.cookiePatterns config) = false)
    (hsilent : e.onProgress = none) :
    e.OperationTurn config r command 0 (prepare config (e.opening config r)) where
  guarded := by
    have hnone : r.scene.patternSetter? config = none := by
      rw [Scene.patternSetter?, hpatterns]
      rfl
    rw [protectCookies_of_none hnone]
  turn := by
    rw [hcommands]
    have hunseen : e.callback? = none := by rw [callback?, hsilent, Option.filter_none]
    exact .now (by rw [emitProgress, hunseen])

theorem base_eq_iff {configured reported : Option String} (hurl : url ≠ "") :
    (Context.orElseText configured reported).getD "" = url ↔
      configured = some url ∨ ((configured = none ∨ configured = some "") ∧ reported = some url) := by
  have htaken : (Context.orElseText configured reported).getD "" = url ↔
      Context.orElseText configured reported = some url := by
    cases Context.orElseText configured reported with
    | none => simp [Ne.symm hurl]
    | some base => simp
  rw [htaken, Context.orElseText_eq_some_iff, and_iff_left hurl]

/-- Unless a cookie jar is called first, the run opens with what the window reported when it was
fetched. -/
theorem reportedUrl?_opening (h : e.handover? config r.scene = none) :
    (e.opening config r).scene.reportedUrl? = r.scene.reportedUrl? := by
  have hopening : (e.opening config r).scene.reportedUrl? =
      (e.protectCookies config r).2.scene.reportedUrl? := rfl
  rw [hopening, run_protectCookies, h]
  rfl

/-- The run that a test comes to once it has fetched a window. -/
def fetchedRun (fetch : Fetch κ σ) (input : OperatorInput) (url : String) (window : Value)
    (r : Run κ σ) : Run κ σ :=
  let scene := (fetch url input.fetchOptions r.scene).2
  ⟨{ scene with context := input.context scene.store window },
    r.trace ++ [.fetch url input.fetchOptions]⟩

/-- Every executor that a test calls is called at a turn of the run on the fetched window. -/
theorem turn_of_mem_calls_handleTest (hload : loader.loadFile input.configPath = .ok config)
    (hnames : input.Names config url) {window : Value}
    (hfetched : (fetch url input.fetchOptions r.scene).1 = .ok window) {call : Call}
    (h : call ∈ (e.handleTest loader fetch input r).2.calls) :
    call ∈ r.calls ∨ ∃ command index s,
      e.OperationTurn config (fetchedRun fetch input url window r) command index s ∧
        call = ⟨command.name, index, s.scene.context.window⟩ := by
  have htested : (e.handleTest loader fetch input r).2 =
      (e.runInContext config (fetchedRun fetch input url window r)).2 :=
    congrArg Prod.snd ((handleTest_of_named e fetch r hload hnames).2 window hfetched)
  have hbefore : (fetchedRun fetch input url window r).calls = r.calls := by
    simp [fetchedRun, Run.calls, Event.call?]
  rw [htested] at h
  rw [← hbefore]
  exact operationTurn_of_mem_calls h

/-- A page that an operator names is fetched in place of the one of the settings, but the run does
not take its base URL from it. Where no executor assigns another, every executor sees the base URL
of the settings, or else the URL that the window reports when the run opens, or else none; and that
is the named page just when the settings have it as theirs, or have none and the window reports
it. -/
theorem named_page_is_fetched_not_base (e : Engine κ σ) (fetch : Fetch κ σ) (r : Run κ σ)
    (hkeep : e.collaborators.Keeps fun s => s.context.baseUrl)
    (hload : loader.loadFile input.configPath = .ok config) (hasks : input.url = some url)
    (hurl : url ≠ "") :
    let tested := e.handleTest loader fetch input r
    tested.2.fetches = r.fetches ++ [.fetch url input.fetchOptions] ∧
      ∀ window, (fetch url input.fetchOptions r.scene).1 = .ok window →
        let fetched := fetchedRun fetch input url window r
        let reported := (e.opening config fetched).scene.reportedUrl?
        let base := (Context.orElseText config.baseUrl? reported).getD ""
        (∀ call ∈ tested.2.calls, call ∈ r.calls ∨
          ∃ command index s, e.OperationTurn config fetched command index s ∧
            call = ⟨command.name, index, s.scene.context.window⟩) ∧
        (∀ command index s, e.OperationTurn config fetched command index s →
          s.scene.context.baseUrl = some base) ∧
        (e.handover? config fetched.scene = none →
          reported = fetched.scene.store.windowUrl? window) ∧
        (base = url ↔ config.baseUrl? = some url ∨
          ((config.baseUrl? = none ∨ config.baseUrl? = some "") ∧ reported = some url)) := by
  intro tested
  have hnames : input.Names config url := .asked hasks hurl
  refine ⟨((tests_handleTest e loader fetch input r).fetched config url hload hnames).1, ?_⟩
  intro window hfetched fetched reported base
  refine ⟨?_, ?_, ?_, base_eq_iff hurl⟩
  · exact fun call hcall => turn_of_mem_calls_handleTest hload hnames hfetched hcall
  · exact fun command index s hturn => hturn.baseUrl hkeep rfl
  · exact fun hnone => reportedUrl?_opening hnone

/-- The run on the window of the page that the operator names. -/
def pagedFetched : Run Part Unit :=
  let window : Value :=
    .ofFields [("url", .text "https://a.example"), ("requestResult", .text "session")]
  fetchedRun everyPage pagedInput "https://a.example" window pagedRun

theorem paged_run_has_named_base :
    let tested := Part.engine.handleTest pagedLoader everyPage pagedInput pagedRun
    tested.2.fetches = [.fetch "https://a.example" pagedInput.fetchOptions] ∧
      ∃ config command index s, pagedLoader.loadFile pagedInput.configPath = .ok config ∧
        Part.engine.OperationTurn config pagedFetched command index s ∧
        s.scene.context.baseUrl = some "https://a.example" := by
  intro tested
  have hread : (pagedLoader.loadFile pagedInput.configPath).toOption.map
      (fun c => (c.settings.toOption.isNone, c.commands.isEmpty)) = some (true, false) := by
    rw [show pagedLoader.loadFile pagedInput.configPath = _ from loadFile_pagedLoader]
    decide +kernel
  obtain ⟨config, hconfig, hholds⟩ := Option.map_eq_some_iff.mp hread
  obtain ⟨hunset, hfilled⟩ := Prod.mk.inj hholds
  have hsettings := Option.isNone_iff_eq_none.mp hunset
  obtain ⟨command, rest, hcommands⟩ :=
    List.exists_cons_of_ne_nil (List.isEmpty_eq_false_iff.mp hfilled)
  have hload := eq_ok_of_toOption hconfig
  have hkeep : Part.engine.collaborators.Keeps fun s => s.context.baseUrl :=
    Part.collaborators_keeps fun _ _ => rfl
  have hasks : pagedInput.url = some "https://a.example" := rfl
  obtain ⟨hfetches, hruns⟩ :=
    named_page_is_fetched_not_base Part.engine everyPage pagedRun hkeep hload hasks (by decide)
  obtain ⟨_, hturns, hreported, hnamed⟩ := hruns _ rfl
  have hpatterns : pagedFetched.scene.store.isTruthy
      (pagedFetched.scene.store.cookiePatterns config) = false := by
    rw [Store.cookiePatterns, hsettings]
    rfl
  have hturn : Part.engine.OperationTurn config pagedFetched command 0 _ :=
    operationTurn_first hcommands hpatterns rfl
  refine ⟨hfetches, config, command, 0, _, hload, hturn, ?_⟩
  rw [hturns command 0 _ hturn]
  have hbase : config.baseUrl? = none := by rw [Config.baseUrl?, hsettings]; rfl
  refine congrArg some (hnamed.mpr (.inr ⟨.inl hbase, ?_⟩))
  rw [hreported (Withholds.noPatterns hpatterns).handover?_eq_none]
  rfl

/-- The same configuration with a base URL. -/
def sitedText : String :=
  "version: '1'\nsettings:\n  baseUrl: https://b.example\ncommands:\n- command: open\n"

def sitedLoader : Loader :=
  let disk : Disk := ⟨["work"], []⟩
  let bytes : List UInt8 := sitedText.toList.map fun c => c.toNat.toUInt8
  ⟨[], Disk.surroundings { disk with files := [(disk.resolve "op.yaml", bytes)] }⟩

theorem loadFile_sitedLoader :
    sitedLoader.loadFile "op.yaml" = sitedLoader.parseYaml sitedText :=
  Disk.loadFile_eq_parseYaml (by decide) (by decide +kernel) List.lookup_cons_self
    (by decide +kernel) (by decide +kernel)

/-- The page that an operator names does not override the base URL of the settings: it is fetched,
and when a command has its turn on it the base URL is the other one. -/
theorem named_page_does_not_override_base :
    let tested := Part.engine.handleTest sitedLoader everyPage pagedInput pagedRun
    tested.2.fetches = [.fetch "https://a.example" pagedInput.fetchOptions] ∧
      ∃ config command index s, sitedLoader.loadFile pagedInput.configPath = .ok config ∧
        Part.engine.OperationTurn config pagedFetched command index s ∧
        s.scene.context.baseUrl = some "https://b.example" := by
  intro tested
  have hread : (sitedLoader.loadFile pagedInput.configPath).toOption.map
      (fun c => (c.baseUrl?, c.commands.isEmpty,
        pagedFetched.scene.store.isTruthy (pagedFetched.scene.store.cookiePatterns c))) =
      some (some "https://b.example", false, false) := by
    rw [show sitedLoader.loadFile pagedInput.configPath = _ from loadFile_sitedLoader]
    decide +kernel
  obtain ⟨config, hconfig, hholds⟩ := Option.map_eq_some_iff.mp hread
  obtain ⟨hbase, hholds⟩ := Prod.mk.inj hholds
  obtain ⟨hfilled, hpatterns⟩ := Prod.mk.inj hholds
  obtain ⟨command, rest, hcommands⟩ :=
    List.exists_cons_of_ne_nil (List.isEmpty_eq_false_iff.mp hfilled)
  have hload := eq_ok_of_toOption hconfig
  have hkeep : Part.engine.collaborators.Keeps fun s => s.context.baseUrl :=
    Part.collaborators_keeps fun _ _ => rfl
  have hnames : pagedInput.Names config "https://a.example" := .asked rfl (by decide)
  have hturn : Part.engine.OperationTurn config pagedFetched command 0 _ :=
    operationTurn_first hcommands hpatterns rfl
  refine ⟨((tests_handleTest Part.engine sitedLoader everyPage pagedInput pagedRun).fetched config
    "https://a.example" hload hnames).1, config, command, 0, _, hload, hturn, ?_⟩
  rw [hturn.baseUrl hkeep rfl, hbase]
  rfl

end Engine

end Playbook
