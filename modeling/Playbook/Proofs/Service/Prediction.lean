import Playbook.Proofs.Config.Loading
import Playbook.Proofs.Service.Answers

/-!
Checking a configuration says beforehand what becomes of running it. Both load what was submitted in
the same way, and both tell a configuration error apart from everything else: the one by calling the
configuration invalid, the other by refusing to run it. Where text and an object are submitted
together, both look at the text alone.
-/

namespace Playbook

variable {κ σ : Type}

open Schema Schema.Check

/-- The field of an object. -/
def Json.field? (j : Json) (name : String) : Option Json :=
  match j with
  | .object fields => fields.lookup name
  | _ => none

/-- The message of a configuration error, when that is what loading came to. -/
def LoadError.complaint? : Except LoadError Config → Option String
  | .error (.config e) => some e.message
  | _ => none

namespace Service

variable {e : Engine κ σ} {loader : Loader} {request verifying executing : Request}
  {body other : Body} {r r' : Run κ σ} {s t : Submission} {o : Overrides} {text : String}

/-! ### What answers say -/

/-- The error of an answer that calls a configuration invalid. -/
def reportedInvalid? : Except Fault Response → Option String
  | .ok ⟨200, .json j⟩ =>
    match j.field? "valid", j.field? "error" with
    | some (.bool false), some (.text m) => some m
    | _, _ => none
  | _ => none

/-- The message of an answer that refuses a request because of its configuration. -/
def refusedWith? : Except Fault Response → Option String
  | .ok ⟨400, .json j⟩ =>
    match (j.field? "detail").bind fun detail => detail.field? "message" with
    | some (.text m) => some m
    | _ => none
  | _ => none

theorem reportedInvalid?_written_valid (c : Config) :
    reportedInvalid? (written (κ := κ) {} .empty (VerifyResult.toRecord ⟨true, some c, none⟩)) =
      none := by
  unfold written
  split
  · rename_i j hwritten
    obtain ⟨fields, rfl, hfields⟩ := Json.Encoder.write_record_eq_ok hwritten
    cases hfields with
    | @cons _ field _ _ hvalid _ =>
      obtain ⟨key, value⟩ := field
      obtain ⟨rfl, hvalue⟩ := hvalid
      obtain rfl : Json.bool true = value := Except.ok.inj hvalue
      rfl
  · rfl

theorem refusedWith?_written (fw : Framework κ) (store : Store κ) (v : Value) :
    refusedWith? (written fw store v) = none := by
  unfold written
  split <;> rfl

/-! ### What becomes of a submission -/

/-- The configuration error that keeps a submission from being loaded. -/
def Submission.complaint? (s : Submission) (loader : Loader) : Option String :=
  (s.load loader).bind LoadError.complaint?

theorem reportedInvalid?_verify (hbody : (bodyValue body).andThen verifyRequest = .pass s) :
    reportedInvalid? (verify (κ := κ) loader body) = s.complaint? loader := by
  unfold verify Submission.complaint?
  rw [hbody]
  cases hload : s.load loader with
  | none => simp only [hload]; rfl
  | some outcome =>
    cases outcome with
    | ok c => simp only [hload, reportedInvalid?_written_valid]; rfl
    | error err => cases err <;> simp only [hload] <;> rfl

theorem refusedWith?_execute (hbody : (bodyValue body).andThen executeRequest = .pass (s, o)) :
    refusedWith? (execute e loader body r).1 = s.complaint? loader := by
  unfold execute Submission.complaint?
  rw [hbody]
  cases hload : s.load loader with
  | none => simp only [hload]; rfl
  | some outcome =>
    cases outcome with
    | ok c =>
      simp only [hload]
      cases hrun : e.runConfig c (.value o.context) r with
      | mk ran after =>
        cases ran with
        | error err => rfl
        | ok result => exact refusedWith?_written {} after.scene.store (result.toRecord none)
    | error err => cases err <;> simp only [hload] <;> rfl

/-- Whoever is refused has not been run. -/
theorem execute_of_complaint {m : String}
    (hbody : (bodyValue body).andThen executeRequest = .pass (s, o))
    (hcomplaint : s.complaint? loader = some m) : (execute e loader body r).2 = r := by
  unfold execute
  unfold Submission.complaint? at hcomplaint
  rw [hbody]
  cases hload : s.load loader with
  | none => simp [hload] at hcomplaint
  | some outcome =>
    cases outcome with
    | ok c => simp [hload, LoadError.complaint?] at hcomplaint
    | error err => cases err <;> simp only [hload]

theorem verify_congr (hbody : (bodyValue body).andThen verifyRequest = .pass s)
    (hother : (bodyValue other).andThen verifyRequest = .pass t)
    (hload : s.load loader = t.load loader) :
    verify (κ := κ) loader body = verify (κ := κ) loader other := by
  unfold verify
  rw [hbody, hother]
  simp only [hload]

theorem execute_congr (hbody : (bodyValue body).andThen executeRequest = .pass (s, o))
    (hother : (bodyValue other).andThen executeRequest = .pass (t, o))
    (hload : s.load loader = t.load loader) :
    execute e loader body r = execute e loader other r := by
  unfold execute
  rw [hbody, hother]
  simp only [hload]

/-! ### Requests with nothing but a configuration -/

/-- A request that a route takes. -/
def Request.To (request : Request) (route : Route) : Prop :=
  request.method = route.method ∧ routeOf? (normalPath request.path) = some route

theorem answer_of_to_verify (h : request.To .verify) :
    answer e (some loader) request r = (verify (κ := κ) loader request.body, r) := by
  obtain ⟨hmethod, hroute⟩ := h
  unfold answer
  rw [hroute]
  dsimp only
  rw [if_neg (not_not.mpr hmethod)]

theorem answer_of_to_execute (h : request.To .execute) :
    answer e (some loader) request r = execute e loader request.body r :=
  answer_eq_execute h.2 h.1

/-- The keys of a request to run a configuration that are neither text nor an object. -/
def furtherKeys : List String := ["commands", "base_url", "timeout", "continue_on_error"]

/-- A body with a configuration, as text or as an object, and nothing else that counts. -/
def OnlySources (body : Body) : Prop :=
  ∀ v entries, bodyValue body = .pass v → v.entries? .none = some entries →
    ∀ key ∈ furtherKeys, entries.getText? key = none

theorem withDefault_of_not_given {α : Type} {entries : Entries} {key : String}
    (h : entries.getText? key = none) (check : Value → Check α) (fallback : α) :
    withDefault entries [key] check fallback = .pass fallback := by
  simp [withDefault, whenGiven, find?, h, Check.map]

/-- Such a body is read alike by both, without anything that it sets in place of settings. -/
theorem executeRequest_of_onlySources (honly : OnlySources body) :
    (bodyValue body).andThen executeRequest =
      ((bodyValue body).andThen verifyRequest).map fun s => (s, ⟨none, none, none⟩) := by
  unfold OnlySources at honly
  cases hvalue : bodyValue body with
  | fail issues => rfl
  | pass v =>
    change executeRequest v = (verifyRequest v).map _
    unfold executeRequest verifyRequest bodyEntries
    cases hentries : v.entries? .none with
    | none => rfl
    | some entries =>
      have hnone : ∀ key ∈ furtherKeys, entries.getText? key = none :=
        honly v entries hvalue hentries
      simp only [Check.andThen, withDefault_of_not_given (hnone "commands" (by decide)),
        withDefault_of_not_given (hnone "base_url" (by decide)),
        withDefault_of_not_given (hnone "timeout" (by decide)),
        withDefault_of_not_given (hnone "continue_on_error" (by decide))]
      cases withDefault entries ["yaml"] (optional lenientText) none <;>
        cases withDefault entries ["config"] (optional (mappingOf .none)) none <;> rfl

/-- Text that a body submits as a configuration, whatever else it submits. -/
def Submits (body : Body) (text : String) : Prop :=
  ∃ s, (bodyValue body).andThen verifyRequest = .pass s ∧ s.yaml = some text

/-- A body with a text and nothing else. -/
def textBody (text : String) : Body := .value (.ofFields [("yaml", .text text)])

theorem verifyRequest_textBody (text : String) :
    (bodyValue (textBody text)).andThen verifyRequest = .pass ⟨some text, none, none⟩ := rfl

theorem executeRequest_textBody (text : String) :
    (bodyValue (textBody text)).andThen executeRequest =
      .pass (⟨some text, none, none⟩, ⟨none, none, none⟩) := rfl

theorem Submission.load_of_yaml (h : s.yaml = some text) :
    s.load loader = some (loader.parseYaml text) := by
  unfold Submission.load
  rw [h]

/-- Where the body is the same, and holds nothing but a configuration, the one answer calls the
configuration invalid exactly when the other refuses to run it, and with the same message. -/
theorem reportedInvalid?_eq_refusedWith? (hverify : verifying.To .verify)
    (hexecute : executing.To .execute) (hsame : executing.body = verifying.body)
    (honly : OnlySources verifying.body) :
    reportedInvalid? (answer e (some loader) verifying r).1 =
      refusedWith? (answer e (some loader) executing r').1 := by
  rw [answer_of_to_verify hverify, answer_of_to_execute hexecute, hsame]
  have hread := executeRequest_of_onlySources honly
  cases hbody : (bodyValue verifying.body).andThen verifyRequest with
  | fail issues =>
    rw [hbody] at hread
    unfold verify execute
    rw [hbody, hread]
    rfl
  | pass s =>
    rw [hbody] at hread
    rw [reportedInvalid?_verify hbody, refusedWith?_execute hread]

/-- A request that is refused because of its configuration leaves everything as it was. -/
theorem answer_of_refusedWith? {m : String} (hexecute : executing.To .execute)
    (hrefused : refusedWith? (answer e (some loader) executing r).1 = some m) :
    (answer e (some loader) executing r).2 = r := by
  rw [answer_of_to_execute hexecute] at hrefused ⊢
  cases hbody : (bodyValue executing.body).andThen executeRequest with
  | fail issues =>
    unfold execute
    rw [hbody]
  | pass read =>
    obtain ⟨s, o⟩ := read
    rw [refusedWith?_execute hbody] at hrefused
    exact execute_of_complaint hbody hrefused

/-- Next to a text nothing else that is submitted counts. -/
theorem answers_of_submits (hverify : verifying.To .verify) (hexecute : executing.To .execute)
    (hsame : executing.body = verifying.body) (honly : OnlySources verifying.body)
    (htext : Submits verifying.body text) :
    answer e (some loader) verifying r =
        answer e (some loader) { verifying with body := textBody text } r ∧
      answer e (some loader) executing r' =
        answer e (some loader) { executing with body := textBody text } r' := by
  obtain ⟨s, hbody, hyaml⟩ := htext
  have hload : s.load loader = Submission.load ⟨some text, none, none⟩ loader :=
    Submission.load_of_yaml hyaml
  have hread := executeRequest_of_onlySources honly
  rw [hbody] at hread
  have hverify' : Request.To { verifying with body := textBody text } .verify := hverify
  have hexecute' : Request.To { executing with body := textBody text } .execute := hexecute
  rw [answer_of_to_verify hverify, answer_of_to_verify hverify', answer_of_to_execute hexecute,
    answer_of_to_execute hexecute', hsame, verify_congr hbody (verifyRequest_textBody text) hload,
    execute_congr hread (executeRequest_textBody text) hload]
  exact ⟨rfl, rfl⟩

end Service

/-! ### Files -/

section Files

variable {e : Engine κ σ} {loader : Loader} {fetch : Fetch κ σ} {input : OperatorInput}
  {r : Run κ σ} {m : String}

theorem verifyFile_reports_iff :
    (∃ report, verifyFile loader input.configPath = .ok report ∧ report.error = some m) ↔
      LoadError.complaint? (loader.loadFile input.configPath) = some m := by
  unfold verifyFile
  cases loader.loadFile input.configPath with
  | ok c => simp [LoadError.complaint?]
  | error err => cases err <;> simp [LoadError.complaint?]

/-- A run on a window is reported with its configuration. -/
theorem config_of_runOnWindow {config : Config} {backend window state : Value}
    {report : TestResult} (h : (e.runOnWindow config backend window state r).1 = .ok report) :
    report.config = some config := by
  revert h
  unfold Engine.runOnWindow
  dsimp only
  cases e.runConfig config (.value (windowContext r.scene.store backend window state)) r with
  | mk ran after =>
    cases ran with
    | error err => nofun
    | ok result =>
      rintro ⟨⟩
      rfl

/-- A test without a configuration ended before anything was done. -/
theorem handleTest_of_no_configuration {report : TestResult}
    (htest : (e.handleTest loader fetch input r).1 = .ok report) (hnone : report.config = none) :
    (e.handleTest loader fetch input r).2 = r ∧
      LoadError.complaint? (loader.loadFile input.configPath) = report.error := by
  revert htest
  unfold Engine.handleTest
  cases loader.loadFile input.configPath with
  | error err =>
    cases err with
    | fault kind => nofun
    | config err =>
      rintro ⟨⟩
      exact ⟨rfl, rfl⟩
  | ok c =>
    dsimp only
    cases testUrl? input c with
    | none =>
      rintro ⟨⟩
      cases hnone
    | some url =>
      dsimp only
      cases fetch url input.fetchOptions (r.note (.fetch url input.fetchOptions)).scene with
      | mk fetched scene =>
        cases fetched with
        | error f =>
          rintro ⟨⟩
          cases hnone
        | ok window =>
          intro htest
          rw [config_of_runOnWindow htest] at hnone
          cases hnone

theorem handleTest_of_complaint
    (h : LoadError.complaint? (loader.loadFile input.configPath) = some m) :
    (e.handleTest loader fetch input r).1 = .ok (.stopped none m) := by
  unfold Engine.handleTest
  cases hload : loader.loadFile input.configPath with
  | ok c => simp [hload, LoadError.complaint?] at h
  | error err =>
    cases err with
    | fault kind => simp [hload, LoadError.complaint?] at h
    | config err =>
      obtain rfl : err.message = m := by simpa [hload, LoadError.complaint?] using h
      rfl

theorem verifyFile_reports_iff_handleTest :
    (∃ report, verifyFile loader input.configPath = .ok report ∧ report.error = some m) ↔
      ∃ report, (e.handleTest loader fetch input r).1 = .ok report ∧ report.config = none ∧
        report.error = some m := by
  rw [verifyFile_reports_iff]
  constructor
  · intro h
    exact ⟨_, handleTest_of_complaint h, rfl, rfl⟩
  · rintro ⟨report, htest, hnone, herror⟩
    rw [(handleTest_of_no_configuration htest hnone).2, herror]

end Files

/-- Checking predicts running. For requests with the same body, which submits a configuration and
nothing else, the check calls the configuration invalid exactly when the other request is refused
because of it, with the same message, and neither leaves a trace then. Next to a text an object does
not count for either. Likewise the check of a file reports an error exactly when a test of it ends
without a configuration and with that error, before any page is fetched. -/
theorem verification_predicts_execution (e : Engine κ σ) (loader : Loader) :
    (∀ (verifying executing : Service.Request) (r r' : Run κ σ),
      verifying.To .verify → executing.To .execute → executing.body = verifying.body →
        Service.OnlySources verifying.body →
          let verified := Service.answer e (some loader) verifying r
          let executed := Service.answer e (some loader) executing r'
          (∀ m, Service.reportedInvalid? verified.1 = some m ↔
            Service.refusedWith? executed.1 = some m) ∧
          (∀ m, Service.refusedWith? executed.1 = some m → verified.2 = r ∧ executed.2 = r') ∧
          ∀ text, Service.Submits verifying.body text →
            verified = Service.answer e (some loader)
                { verifying with body := Service.textBody text } r ∧
              executed = Service.answer e (some loader)
                { executing with body := Service.textBody text } r') ∧
      ∀ (fetch : Fetch κ σ) (input : OperatorInput) (r : Run κ σ),
        let report := verifyFile loader input.configPath
        let tested := e.handleTest loader fetch input r
        (∀ m, (∃ t, report = .ok t ∧ t.error = some m) ↔
          ∃ t, tested.1 = .ok t ∧ t.config = none ∧ t.error = some m) ∧
        ∀ t, tested.1 = .ok t → t.config = none → tested.2 = r := by
  refine ⟨?_, ?_⟩
  · intro verifying executing r r' hverify hexecute hsame honly verified executed
    have hagree : Service.reportedInvalid? verified.1 = Service.refusedWith? executed.1 :=
      Service.reportedInvalid?_eq_refusedWith? hverify hexecute hsame honly
    refine ⟨fun m => by rw [hagree], fun m hrefused => ⟨?_, ?_⟩, fun text htext => ?_⟩
    · exact congrArg Prod.snd (Service.answer_of_to_verify hverify)
    · exact Service.answer_of_refusedWith? hexecute hrefused
    · exact Service.answers_of_submits hverify hexecute hsame honly htext
  · intro fetch input r report tested
    exact ⟨fun m => verifyFile_reports_iff_handleTest,
      fun t htest hnone => (handleTest_of_no_configuration htest hnone).1⟩

/-- A text that ends within a list. -/
def openList : String := "["

/-- A body with that text and, next to it, an object that is a configuration. -/
def twoSources : Service.Body :=
  .value (.ofFields
    [("yaml", .text openList), ("config", (Config.ofNames ["navigate"]).toDocument)])

theorem parseYaml_openList :
    Loader.parseYaml ⟨[], .empty⟩ openList =
      .error (.config (.malformed (.parsing "a flow node"))) := by
  have hproblem : problem? (Yaml.readDocument openList) = some (.parsing "a flow node") := by
    decide +kernel
  have hread : Surroundings.empty.read openList = _ := problem?_eq_some_iff.mp hproblem
  rw [Loader.parseYaml, hread]
  rfl

/-- An operator who tries a file that is not there. -/
def strayOperator : OperatorInput where
  configPath := "a.yaml"
  url := some "https://a.b"
  jsonOutput := false
  verbose := false
  fetchOptions := []
  backend := none

theorem broken_sources_are_refused_beforehand :
    let loader : Loader := ⟨[], .empty⟩
    let r : Run Part Unit := Part.stage [] {} .empty
    let verifying : Service.Request := ⟨"POST", "/api/v1/verify", twoSources⟩
    let executing : Service.Request := ⟨"POST", "/api/v1/execute", twoSources⟩
    let message := "YAML parsing error: while parsing a flow node"
    let shown := Disk.pathText (Disk.empty.resolve "a.yaml")
    let verified := Service.answer Part.engine (some loader) verifying r
    let executed := Service.answer Part.engine (some loader) executing r
    let tested := Part.engine.handleTest loader (fun _ _ s => (.ok .null, s)) strayOperator r
    Service.OnlySources twoSources ∧ Service.Submits twoSources openList ∧
      Service.reportedInvalid? verified.1 = some message ∧
      Service.refusedWith? executed.1 = some message ∧ executed.2 = r ∧
      (∃ t, tested.1 = .ok t ∧ t.config = none ∧
        t.error = some ("Configuration file not found: " ++ shown)) ∧ tested.2 = r := by
  intro loader r verifying executing message shown verified executed tested
  obtain ⟨hrequests, hfiles⟩ := verification_predicts_execution Part.engine loader
  have hverify : verifying.To .verify := ⟨rfl, by decide⟩
  have hexecute : executing.To .execute := ⟨rfl, by decide⟩
  have honly : Service.OnlySources twoSources := by
    rintro _ _ ⟨⟩ ⟨⟩
    decide
  have htext : Service.Submits twoSources openList := ⟨_, rfl, rfl⟩
  obtain ⟨hagree, hleft, halone⟩ := hrequests verifying executing r r hverify hexecute rfl honly
  have hverified : verified = _ := (halone openList htext).1
  have hreported : Service.reportedInvalid? verified.1 = some message := by
    have halike : Service.Request.To { verifying with body := Service.textBody openList } .verify :=
      hverify
    rw [hverified, Service.answer_of_to_verify halike,
      Service.reportedInvalid?_verify (Service.verifyRequest_textBody openList)]
    unfold Service.Submission.complaint?
    rw [Service.Submission.load_of_yaml rfl, parseYaml_openList]
    rfl
  have hrefused := (hagree message).mp hreported
  have hmissing : verifyFile loader "a.yaml" =
      .ok ⟨false, none, some ("Configuration file not found: " ++ shown)⟩ := by
    rw [verifyFile, Loader.loadFile_of_missing (Disk.resolve_surroundings (by decide))
      (Disk.isFile_surroundings (by decide +kernel))]
    rfl
  obtain ⟨hreports, hbefore⟩ := hfiles (fun _ _ s => (.ok .null, s)) strayOperator r
  obtain ⟨t, htested, hnone, herror⟩ := (hreports _).mp ⟨_, hmissing, rfl⟩
  exact ⟨honly, htext, hreported, hrefused, (hleft message hrefused).2, ⟨t, htested, hnone, herror⟩,
    hbefore t htested hnone⟩

end Playbook
