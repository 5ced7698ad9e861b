import Playbook.Proofs.Defaults
import Playbook.Proofs.Service.Answers

/-!
What a request sets in place of the settings of its configuration. It stands in the context before
the run is opened, so that the settings are asked for the rest only.
-/

namespace Playbook

variable {μ : Type} {store : Store μ} {settings : Option Settings}

open Schema Schema.Check

theorem Store.windowUrl?_null (store : Store μ) : store.windowUrl? .null = none := rfl

/-- What a request sets goes before the settings of its configuration. -/
theorem Service.Overrides.filled (hvalid : ∀ s ∈ settings, s.Validated) (o : Overrides) :
    let filled := o.opened.applyDefaults store settings
    filled.baseUrl = some ((o.baseUrl.or (Settings.given? settings Settings.baseUrl)).getD "") ∧
      filled.timeout =
        .int ((o.timeout.or (Settings.given? settings Settings.timeout)).getD 5000) ∧
      filled.continueOnError =
        .bool ((o.continueOnError.or
          (Settings.given? settings Settings.continueOnError)).getD false) := by
  obtain ⟨baseUrl, timeout, goOn⟩ := o
  dsimp only
  rw [Context.applyDefaults_eq_resolved hvalid]
  refine ⟨?_, ?_, ?_⟩
  · change some (((baseUrl.or _).or (store.windowUrl? .null)).getD "") = _
    rw [store.windowUrl?_null, Option.or_none]
  · change Value.leftmost [Context.orNull .int timeout, _, _] = _
    rw [Context.leftmost_ofInt?]
    cases timeout <;> rfl
  · change Value.leftmost [Context.orNull .bool goOn, _, _] = _
    rw [Context.leftmost_ofBool?]
    cases goOn <;> rfl

/-- Opening a run fills each open field from the first of its sources that holds something, zero,
the empty text and false included, and touches no other field. The same settings then have nothing
to add, and no settings that come later change the base URL, the timeout or the flag to go on. What
a request sets in place of the settings goes before them. -/
theorem Context.open_fields_take_their_first_source (store : Store μ) (c : Context)
    (settings : Option Settings) (hvalid : ∀ s ∈ settings, s.Validated) :
    let filled := c.applyDefaults store settings
    filled = c.resolved store settings ∧
      store.windowUrl? c.window ≠ some "" ∧
      (∀ later : Store μ, filled.applyDefaults later settings = filled) ∧
      (∀ rounds : List (Store μ × Option Settings),
        let again := filled.applyAll rounds
        again.baseUrl = filled.baseUrl ∧ again.timeout = filled.timeout ∧
          again.continueOnError = filled.continueOnError) ∧
      ∀ o : Service.Overrides, ∃ opened,
        buildContext store (.value o.context) = .ok opened ∧
          let filled := opened.applyDefaults store settings
          filled.baseUrl =
              some ((o.baseUrl.or (Settings.given? settings Settings.baseUrl)).getD "") ∧
            filled.timeout =
              .int ((o.timeout.or (Settings.given? settings Settings.timeout)).getD 5000) ∧
            filled.continueOnError =
              .bool ((o.continueOnError.or
                (Settings.given? settings Settings.continueOnError)).getD false) := by
  intro filled
  have hsettled : filled.Settled := c.settled_applyDefaults store settings
  exact ⟨applyDefaults_eq_resolved hvalid c, store.windowUrl?_ne_empty c.window,
    fun later => applyDefaults_again c store later settings,
    fun rounds => hsettled.applyAll rounds,
    fun o => ⟨o.opened, Service.buildContext_overrides store o, o.filled hvalid⟩⟩

/-- Settings that give a value for each field, one of them a key that is passed through. -/
def fullSettings : Settings where
  timeout := .given 250
  waitForCompletion := .null
  continueOnError := .given true
  baseUrl := .given "https://a.b"
  others := [("windowPolyfills", .text "fetch")]

def fullEntries : Entries :=
  textEntries
    [("windowPolyfills", .text "fetch"), ("timeout", .int 250), ("base_url", .text "https://a.b"),
      ("continue_on_error", .bool true), ("waitForCompletion", .null)]

theorem validated_fullSettings : fullSettings.Validated := by
  have habsolute : Url.isAbsolute "https://a.b" = true := by decide +kernel
  have hbase : Settings.checkBaseUrl (.text "https://a.b") = .pass "https://a.b" := by
    simp [Settings.checkBaseUrl, strictText, Check.andThen, habsolute]
  exact ⟨fullEntries, Settings.ofEntries_eq_pass_iff.mpr
    ⟨.given (by simp) rfl, .null, .given (by simp) rfl, .given (by simp) hbase, rfl⟩⟩

theorem Context.falsy_fields_are_kept :
    let store : Store Unit := .empty
    let settled : Context :=
      { baseUrl := some "", timeout := .int 0, continueOnError := .bool false }
    let filled := settled.applyDefaults store (some fullSettings)
    (∀ s ∈ some fullSettings, s.Validated) ∧
      filled =
        { settled with
          settings := .map fullSettings.entries, windowPolyfills := .text "fetch" } ∧
      (∀ later : Store Unit, filled.applyDefaults later (some fullSettings) = filled) ∧
      Context.applyDefaults {} store (some fullSettings) =
        { baseUrl := some "https://a.b", timeout := .int 250, continueOnError := .bool true
          settings := .map fullSettings.entries, windowPolyfills := .text "fetch" } := by
  intro store settled filled
  have hvalid : ∀ s ∈ some fullSettings, s.Validated := by
    rintro s ⟨⟩
    exact validated_fullSettings
  obtain ⟨hfilled, _, hagain, _⟩ :=
    open_fields_take_their_first_source store settled (some fullSettings) hvalid
  obtain ⟨hopen, _⟩ := open_fields_take_their_first_source store {} (some fullSettings) hvalid
  exact ⟨hvalid, hfilled.trans rfl, hagain, hopen.trans rfl⟩

end Playbook
