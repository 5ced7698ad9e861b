import Playbook.Handlers
import Playbook.Proofs.Config.Loading
import Playbook.Proofs.Operation.Cookies

/-!
What an operator is told, and what has been done by then. A report holds an error or a result and
never both, and it holds the configuration whenever one was loaded. A page is fetched only for a
loaded configuration and a page that is named, and commands are run only on a window that was
fetched.
-/

namespace Playbook

variable {κ σ : Type}

/-- A report on what was loaded and, if it came to that, run. -/
structure TestResult.Consistent (t : TestResult) (loaded : Except LoadError Config) : Prop where
  error_xor_result : (t.error.isSome = true ∧ t.result = none) ∨
    (t.error = none ∧ t.result.isSome = true)
  config : t.config = loaded.toOption
  success_iff : t.success = true ↔ ∃ result, t.result = some result ∧ result.success = true

/-- The page to try a configuration on: the one that the operator names, or the one that the
settings name when the operator names none. -/
inductive OperatorInput.Names (input : OperatorInput) (config : Config) : String → Prop
  | asked {url : String} (asks : input.url = some url) (nonempty : url ≠ "") :
      Names input config url
  | configured {url : String} (asksNothing : input.url = none ∨ input.url = some "")
      (holds : (config.settings.toOption.bind fun s => s.baseUrl.toOption) = some url)
      (nonempty : url ≠ "") : Names input config url

def Event.isFetch : Event → Bool
  | .fetch _ _ => true
  | _ => false

/-- The pages that were fetched so far. -/
def Run.fetches (r : Run κ σ) : List Event := r.trace.filter Event.isFetch

/-- The context that the run on a fetched window starts in. -/
def OperatorInput.context {μ : Type} (input : OperatorInput) (store : Store μ) (window : Value) :
    Context :=
  { backend := input.backend.getD .inProcess, window
    requestResult := (store.firstPresent window ["request_result", "requestResult"]).getD .null }

/-- The stages of a test, each of which is reached only through those before it. -/
structure Engine.Tests (e : Engine κ σ) (loader : Loader) (fetch : Fetch κ σ)
    (input : OperatorInput) (r : Run κ σ) (tested : Except OperationError TestResult × Run κ σ) :
    Prop where
  /-- Without a configuration nothing is done. -/
  unloaded : ∀ err, loader.loadFile input.configPath = .error err → tested.2 = r
  /-- Nor is anything without a page. -/
  unnamed : ∀ config, loader.loadFile input.configPath = .ok config →
    (∀ url, ¬ input.Names config url) →
      tested.2 = r ∧ ∃ error, tested.1 = .ok (.stopped (some config) error)
  /-- The page that is named is fetched once, with the options that were given, before anything
  else happens. -/
  fetched : ∀ config url, loader.loadFile input.configPath = .ok config → input.Names config url →
    tested.2.fetches = r.fetches ++ [.fetch url input.fetchOptions] ∧
      r.trace ++ [.fetch url input.fetchOptions] <+: tested.2.trace
  /-- Nothing more is done when that fails. -/
  unfetched : ∀ config url, loader.loadFile input.configPath = .ok config →
    input.Names config url → ∀ f, (fetch url input.fetchOptions r.scene).1 = .error f →
      tested.2 =
        ⟨(fetch url input.fetchOptions r.scene).2, r.trace ++ [.fetch url input.fetchOptions]⟩ ∧
      ∃ error, tested.1 = .ok (.stopped (some config) error)
  /-- Otherwise the configuration is run on the window, with its session state and the backend that
  was asked for. -/
  run : ∀ config url, loader.loadFile input.configPath = .ok config → input.Names config url →
    ∀ window, (fetch url input.fetchOptions r.scene).1 = .ok window →
      let scene := (fetch url input.fetchOptions r.scene).2
      let context := input.context scene.store window
      let ended := e.runInContext config
        ⟨{ scene with context }, r.trace ++ [.fetch url input.fetchOptions]⟩
      tested = (ended.1.map (TestResult.finished config), ended.2)

theorem eq_ok_of_toOption {ε α : Type} {x : Except ε α} {a : α} (h : x.toOption = some a) :
    x = .ok a := by
  cases x with
  | error err => cases h
  | ok b => rw [Option.some.inj h]

namespace TestResult

theorem consistent_unloaded (err : LoadError) (message : String) :
    (stopped none message).Consistent (.error err) :=
  ⟨.inl ⟨rfl, rfl⟩, rfl, by simp [stopped]⟩

theorem consistent_stopped (config : Config) (message : String) :
    (stopped (some config) message).Consistent (.ok config) :=
  ⟨.inl ⟨rfl, rfl⟩, rfl, by simp [stopped]⟩

theorem consistent_finished (config : Config) (result : RunResult) :
    (finished config result).Consistent (.ok config) :=
  ⟨.inr ⟨rfl, rfl⟩, rfl, by simp [finished]⟩

end TestResult

theorem Context.orElseText_eq_some_iff {x fallback : Option String} {s : String} :
    orElseText x fallback = some s ↔
      (x = some s ∧ s ≠ "") ∨ ((x = none ∨ x = some "") ∧ fallback = some s) := by
  cases x with
  | none => simp [orElseText]
  | some t =>
    by_cases ht : t = ""
    · simp [orElseText, ht, eq_comm]
    · have htaken : orElseText (some t) fallback = some t := if_neg ht
      rw [htaken]
      constructor
      · rintro ⟨⟩
        exact .inl ⟨rfl, ht⟩
      · rintro (⟨hs, _⟩ | ⟨hnone | hempty, _⟩)
        · exact hs
        · cases hnone
        · exact absurd (Option.some.inj hempty) ht

theorem testUrl?_eq_some_iff {input : OperatorInput} {config : Config} {url : String} :
    testUrl? input config = some url ↔ input.Names config url := by
  simp only [testUrl?, Context.orElseText_eq_some_iff, reduceCtorEq, and_false, or_false]
  constructor
  · rintro ⟨⟨hasks, hurl⟩ | ⟨hnothing, hholds⟩, hurl⟩
    · exact .asked hasks hurl
    · exact .configured hnothing hholds hurl
  · intro h
    cases h with
    | asked asks nonempty => exact ⟨.inl ⟨asks, nonempty⟩, nonempty⟩
    | configured asksNothing holds nonempty => exact ⟨.inr ⟨asksNothing, holds⟩, nonempty⟩

/-! ### What a run fetches -/

namespace Engine

variable {e : Engine κ σ} {start : Value} {total index : Nat} {command : Command}
  {r r' : Run κ σ} {a : Attempt κ σ} {f : Clock.Fault}

theorem filter_fetches_released (e : Engine κ σ) (a : Attempt κ σ) :
    (e.released a).filter Event.isFetch = [] := by
  unfold released
  cases e.releaser? a <;> rfl

/-- No run fetches a page. -/
theorem Goes.fetches {commands : List Command} {row : List (Attempt κ σ)}
    {outcome : Except Escape Unit}
    (h : e.Goes start total index commands r row outcome r') : r'.fetches = r.fetches := by
  obtain ⟨broken, htrace, _, hbroken⟩ :=
    h.filter_trace (p := Event.isFetch) ⟨fun _ => rfl, fun _ _ _ => rfl⟩
  simp only [filter_fetches_released, exists_and_right] at htrace hbroken
  have hnone : broken = [] := hbroken.elim id And.right
  have hadded : row.flatMap (fun _ => ([] : List Event)) = [] := by simp
  rwa [hadded, hnone, List.append_nil, List.append_nil] at htrace

theorem fetches_protectCookies (e : Engine κ σ) (config : Config) (r : Run κ σ) :
    (e.protectCookies config r).2.fetches = r.fetches := by
  rw [run_protectCookies]
  unfold Run.fetches
  rw [trace_callHandover, List.filter_append]
  cases e.handover? config r.scene <;> simp [Handover.event, Event.isFetch]

theorem fetches_runInContext (e : Engine κ σ) (config : Config) (r : Run κ σ) :
    (e.runInContext config r).2.fetches = r.fetches := by
  rw [← e.fetches_protectCookies config r]
  cases hprotect : (e.protectCookies config r).1 with
  | error err => rw [runInContext_of_error hprotect]
  | ok _ =>
    obtain ⟨outcome, hplays, _⟩ := plays_attempts e config (e.opening config r)
    have hrun := Goes.fetches hplays
    rw [runInContext_of_ok hprotect]
    exact hrun

theorem runInContext_trace_extends (e : Engine κ σ) (config : Config) (r : Run κ σ) :
    r.trace <+: (e.runInContext config r).2.trace := by
  obtain ⟨later, htrace, _⟩ := e.runInContext_releasesOnly config r
  rw [htrace, trace_callHandover, List.append_assoc]
  exact List.prefix_append _ _

/-! ### Handlers -/

variable {loader : Loader} {fetch : Fetch κ σ} {input : OperatorInput} {config : Config}
  {url : String} {window : Value} {t : TestResult}

/-- What is run on a window is what the operation in that context comes to. -/
theorem runOnWindow_eq {backend session : Value} {context : Context}
    (hbuild : buildContext r.scene.store
      (.value (windowContext r.scene.store backend window session)) = .ok context) :
    let ended := e.runInContext config (r.withContext fun _ => context)
    e.runOnWindow config backend window session r =
      (ended.1.map (TestResult.finished config), ended.2) := by
  intro ended
  unfold runOnWindow runConfig
  dsimp only
  rw [hbuild]
  cases hended : e.runInContext config (r.withContext fun _ => context) with
  | mk outcome last => cases outcome <;> simp only [ended, hended, Except.map]

theorem finished_of_runOnWindow {backend session : Value}
    (h : (e.runOnWindow config backend window session r).1 = .ok t) :
    ∃ result, t = .finished config result := by
  revert h
  unfold runOnWindow
  dsimp only
  cases e.runConfig config (.value (windowContext r.scene.store backend window session)) r with
  | mk outcome last =>
    cases outcome with
    | error err => nofun
    | ok result =>
      rintro ⟨⟩
      exact ⟨result, rfl⟩

theorem sessionState_eq {μ : Type} (store : Store μ) (window : Value) :
    store.sessionState window =
      (store.firstPresent window ["request_result", "requestResult"]).getD .null := by
  rw [← Store.present?_sessionState]
  unfold Store.present?
  split
  · rename_i hnull
    exact Value.isNull_iff.mp hnull
  · rfl

theorem isTruthy_backend {μ : Type} (store : Store μ) (b : Backend) :
    store.isTruthy (.text b.name) = true := by
  cases b <;> rfl

/-- The backend, the window and its session state pass the check of contexts. -/
theorem buildContext_input {μ : Type} (store : Store μ) (input : OperatorInput) (window : Value) :
    buildContext store (.value (windowContext store (.ofText? (input.backend.map Backend.name))
      window (store.sessionState window))) = .ok (input.context store window) := by
  have hchecked (b : Backend) (session : Value) :
      ContextObject.check 0 store.lookup (.ofFields
          [("backend", .text b.name), ("window", window), ("request_result", session)]) =
        .pass ⟨{ backend := b, window, requestResult := session },
          ["backend", "window", "request_result"]⟩ := by
    cases b <;> rfl
  unfold windowContext OperatorInput.context
  rw [← sessionState_eq]
  cases input.backend with
  | none => exact (buildContext_of_checked (hchecked .inProcess _)).1
  | some b =>
    have hgiven : Value.ofText? ((some b).map Backend.name) = .text b.name := rfl
    rw [hgiven, if_pos (isTruthy_backend store b)]
    exact (buildContext_of_checked (hchecked b _)).1

theorem handleTest_of_unloaded {err : LoadError}
    (hload : loader.loadFile input.configPath = .error err) :
    (e.handleTest loader fetch input r).2 = r ∧
      ∀ t, (e.handleTest loader fetch input r).1 = .ok t → t.Consistent (.error err) := by
  cases err with
  | fault kind =>
    have htest : e.handleTest loader fetch input r = (.error (.load (.fault kind)), r) := by
      simp only [handleTest, hload]
    rw [htest]
    refine ⟨rfl, ?_⟩
    intro t ht
    cases ht
  | config err =>
    have htest : e.handleTest loader fetch input r = (.ok (.stopped none err.message), r) := by
      simp only [handleTest, hload]
    rw [htest]
    refine ⟨rfl, ?_⟩
    intro t ht
    obtain rfl := Except.ok.inj ht
    exact TestResult.consistent_unloaded _ _

theorem handleTest_of_unnamed (hload : loader.loadFile input.configPath = .ok config)
    (hnone : ∀ url, ¬ input.Names config url) :
    e.handleTest loader fetch input r = (.ok (.stopped (some config) missingUrl), r) := by
  have hurl : testUrl? input config = none :=
    Option.eq_none_iff_forall_ne_some.mpr fun url h => hnone url (testUrl?_eq_some_iff.mp h)
  unfold handleTest
  simp only [hload, hurl]

theorem handleTest_of_named (e : Engine κ σ) (fetch : Fetch κ σ) (r : Run κ σ)
    (hload : loader.loadFile input.configPath = .ok config) (hnames : input.Names config url) :
    let made := fetch url input.fetchOptions r.scene
    let fetched : Run κ σ := ⟨made.2, r.trace ++ [.fetch url input.fetchOptions]⟩
    (∀ f, made.1 = .error f →
      e.handleTest loader fetch input r =
        (.ok (.stopped (some config) ("Failed to fetch " ++ url ++ ": " ++ f.text)), fetched)) ∧
    ∀ window, made.1 = .ok window →
      let opened := fetched.withContext fun _ => input.context fetched.scene.store window
      let ended := e.runInContext config opened
      e.handleTest loader fetch input r =
        (ended.1.map (TestResult.finished config), ended.2) := by
  intro made fetched
  have hurl := testUrl?_eq_some_iff.mpr hnames
  refine ⟨?_, ?_⟩
  · intro f hraised
    have hmade : fetch url input.fetchOptions r.scene = (.error f, made.2) := by rw [← hraised]
    simp only [handleTest, hload, hurl, Run.scene_note, hmade]
    rfl
  · intro window hfetched opened ended
    have hmade : fetch url input.fetchOptions r.scene = (.ok window, made.2) := by rw [← hfetched]
    simp only [handleTest, hload, hurl, Run.scene_note, hmade]
    exact runOnWindow_eq (buildContext_input made.2.store input window)

theorem consistent_of_map {outcome : Except OperationError RunResult}
    (h : outcome.map (TestResult.finished config) = .ok t) : t.Consistent (.ok config) := by
  cases outcome with
  | error err => cases h
  | ok result =>
    obtain rfl := Except.ok.inj h
    exact TestResult.consistent_finished config result

theorem tests_handleTest (e : Engine κ σ) (loader : Loader) (fetch : Fetch κ σ)
    (input : OperatorInput) (r : Run κ σ) :
    e.Tests loader fetch input r (e.handleTest loader fetch input r) where
  unloaded err hload := (handleTest_of_unloaded hload).1
  unnamed config hload hnone := by
    rw [handleTest_of_unnamed hload hnone]
    exact ⟨rfl, _, rfl⟩
  fetched config url hload hnames := by
    obtain ⟨hraises, hgives⟩ := handleTest_of_named e fetch r hload hnames
    have hfetches : (r.trace ++ [Event.fetch url input.fetchOptions]).filter Event.isFetch =
        r.fetches ++ [.fetch url input.fetchOptions] := List.filter_append _ _
    cases hmade : (fetch url input.fetchOptions r.scene).1 with
    | error f =>
      rw [hraises f hmade]
      exact ⟨hfetches, List.prefix_refl _⟩
    | ok window =>
      let scene := (fetch url input.fetchOptions r.scene).2
      let opened : Run κ σ :=
        ⟨{ scene with context := input.context scene.store window },
          r.trace ++ [.fetch url input.fetchOptions]⟩
      rw [hgives window hmade]
      exact ⟨(fetches_runInContext e config opened).trans hfetches,
        runInContext_trace_extends e config opened⟩
  unfetched config url hload hnames f hraised := by
    rw [(handleTest_of_named e fetch r hload hnames).1 f hraised]
    exact ⟨rfl, _, rfl⟩
  run config url hload hnames window hfetched :=
    (handleTest_of_named e fetch r hload hnames).2 window hfetched

theorem consistent_of_handleTest (h : (e.handleTest loader fetch input r).1 = .ok t) :
    t.Consistent (loader.loadFile input.configPath) := by
  cases hload : loader.loadFile input.configPath with
  | error err => exact (handleTest_of_unloaded hload).2 t h
  | ok config =>
    by_cases hnone : ∀ url, ¬ input.Names config url
    · rw [handleTest_of_unnamed hload hnone] at h
      obtain rfl := Except.ok.inj h
      exact TestResult.consistent_stopped config missingUrl
    · obtain ⟨url, hnames⟩ := not_forall_not.mp hnone
      obtain ⟨hraises, hgives⟩ := handleTest_of_named e fetch r hload hnames
      cases hmade : (fetch url input.fetchOptions r.scene).1 with
      | error f =>
        rw [hraises f hmade] at h
        obtain rfl := Except.ok.inj h
        exact TestResult.consistent_stopped config _
      | ok window =>
        rw [hgives window hmade] at h
        exact consistent_of_map h

theorem consistent_of_handleExecute {source : Source} {session backend : Value}
    (h : (e.handleExecute loader window source session backend r).1 = .ok t) :
    t.Consistent (loader.loadOperation r.scene.store.lookup source) := by
  unfold handleExecute at h
  cases hload : loader.loadOperation r.scene.store.lookup source with
  | error err =>
    rw [hload] at h
    cases err with
    | fault kind => cases h
    | config err =>
      obtain rfl := Except.ok.inj h
      exact TestResult.consistent_unloaded _ _
  | ok config =>
    rw [hload] at h
    obtain ⟨result, rfl⟩ := finished_of_runOnWindow h
    exact TestResult.consistent_finished config result

theorem run_handleExecute_of_unloaded {source : Source} {session backend : Value} {err : LoadError}
    (hload : loader.loadOperation r.scene.store.lookup source = .error err) :
    (e.handleExecute loader window source session backend r).2 = r := by
  cases err <;> simp only [handleExecute, hload]

/-- What operators are told, and when. Whatever the file, the page, the registry and the executors
are, a report that comes back is consistent: either an error or a result, the configuration just
when it was loaded, and success just when there is a result that succeeded. A test fetches a page
only for a loaded configuration, only the page that is named and only once, and runs the
configuration on the window that it gets and on no other; when a stage fails, those after it leave
no trace. -/
theorem handlers_report_consistently (e : Engine κ σ) (loader : Loader) :
    (∀ fetch input r,
      (∀ t, (e.handleTest loader fetch input r).1 = .ok t →
        t.Consistent (loader.loadFile input.configPath)) ∧
      e.Tests loader fetch input r (e.handleTest loader fetch input r)) ∧
    ∀ window source session backend r,
      let loaded := loader.loadOperation r.scene.store.lookup source
      let executed := e.handleExecute loader window source session backend r
      (∀ t, executed.1 = .ok t → t.Consistent loaded) ∧
        ∀ err, loaded = .error err → executed.2 = r :=
  ⟨fun fetch input r =>
      ⟨fun _ => consistent_of_handleTest, tests_handleTest e loader fetch input r⟩,
    fun _ _ _ _ _ =>
      ⟨fun _ => consistent_of_handleExecute, fun _ => run_handleExecute_of_unloaded⟩⟩

/-- A configuration in a file of its own. -/
def pagedText : String := "version: '1'\ncommands:\n- command: open\n"

def pagedLoader : Loader :=
  let disk : Disk := ⟨["work"], []⟩
  let bytes : List UInt8 := pagedText.toList.map fun c => c.toNat.toUInt8
  ⟨[], Disk.surroundings { disk with files := [(disk.resolve "op.yaml", bytes)] }⟩

/-- An operator who tries that file on a page. -/
def pagedInput : OperatorInput where
  configPath := "op.yaml"
  url := some "https://a.example"
  jsonOutput := false
  verbose := false
  fetchOptions := [(.text "retries", .int 2)]
  backend := some .remote

/-- Every page is there and comes with a session. -/
def everyPage : Fetch Part Unit := fun url _ s =>
  (.ok (.ofFields [("url", .text url), ("requestResult", .text "session")]), s)

def pagedRun : Run Part Unit := Part.stage [("open", .reporting true [])] {} .empty

theorem loadFile_pagedLoader :
    pagedLoader.loadFile "op.yaml" = pagedLoader.parseYaml pagedText :=
  Disk.loadFile_eq_parseYaml (by decide) (by decide +kernel) List.lookup_cons_self
    (by decide +kernel) (by decide +kernel)

/-- A page is fetched and the configuration is run on it; a row without commands is refused before
anything is done. -/
theorem paged_operator_is_told_consistently :
    let loaded := pagedLoader.loadFile pagedInput.configPath
    let tested := Part.engine.handleTest pagedLoader everyPage pagedInput pagedRun
    let refused := pagedLoader.loadOperation pagedRun.scene.store.lookup (.value (.list []))
    let executed :=
      Part.engine.handleExecute pagedLoader (.text "home") (.value (.list [])) .null .null pagedRun
    (∃ t, tested.1 = .ok t ∧ t.success = true ∧ t.Consistent loaded) ∧
      tested.2.trace.map Event.isFetch = [true, false] ∧
      (∃ t, executed.1 = .ok t ∧ t.success = false ∧ t.Consistent refused) ∧
      executed.2 = pagedRun := by
  intro loaded tested refused executed
  obtain ⟨htests, hexecutes⟩ := handlers_report_consistently Part.engine pagedLoader
  obtain ⟨htold, _⟩ := htests everyPage pagedInput pagedRun
  obtain ⟨htold', halone⟩ :=
    hexecutes (.text "home") (.value (.list [])) .null .null pagedRun
  have hrun : tested.1.toOption.map TestResult.success = some true ∧
      tested.2.trace.map Event.isFetch = [true, false] := by
    have hload : pagedLoader.loadFile pagedInput.configPath = pagedLoader.parseYaml pagedText :=
      loadFile_pagedLoader
    simp only [tested, handleTest]
    rw [hload]
    decide +kernel
  obtain ⟨t, hreport, hsuccess⟩ := Option.map_eq_some_iff.mp hrun.1
  have ht := eq_ok_of_toOption hreport
  obtain ⟨t', ht', hfailure⟩ : ∃ t, executed.1 = .ok t ∧ t.success = false := ⟨_, rfl, rfl⟩
  obtain ⟨err, herr⟩ : ∃ err, refused = .error err := ⟨_, rfl⟩
  exact ⟨⟨t, ht, hsuccess, htold t ht⟩, hrun.2, ⟨t', ht', hfailure, htold' t' ht'⟩,
    halone err herr⟩

end Engine

end Playbook
