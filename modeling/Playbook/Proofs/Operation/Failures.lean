import Playbook.Proofs.Engine.Returns
import Playbook.Proofs.Operation.Cookies

/-!
Operations that come to no result. What goes wrong in a run is data of the run, so whatever ends an
operation without a result happens before its first command: the configuration cannot be loaded, the
context does not pass its check, or protecting cookies goes wrong. The last can be the fault of the
jar, whose setter raises or cannot be called at all. It can also be the fault of the settings, since
patterns are counted once they are handed over and a number, say, cannot be counted.
-/

namespace Playbook

variable {κ σ : Type}

namespace Engine

variable {e : Engine κ σ} {loader : Loader} {source : Source} {input : ContextInput}
  {config : Config} {context : Context} {r : Run κ σ} {err : OperationError}

/-- What goes wrong when cookies are protected. -/
inductive ProtectionFails (e : Engine κ σ) (config : Config) (r : Run κ σ) : OperationError → Prop
  | refused {m : Handover κ} {f : Failure} (handed : e.handover? config r.scene = some m)
      (raised : (e.handOver m r).1 = .error f) :
      ProtectionFails e config r (.refused f)
  | notCallable {name : String} {v : Value}
      (found : r.scene.patternSetter? config = some (name, .plain v)) (plain : v ≠ .callable) :
      ProtectionFails e config r .setterNotCallable
  | notCounted {name : String} {setter : Store.Member κ}
      (found : r.scene.patternSetter? config = some (name, setter))
      (taken : (e.callSetter (r.scene.store.cookieJar r.scene.context.requestResult) name setter
        (r.scene.store.cookiePatterns config) r).1 = .ok ())
      (uncounted : (r.scene.store.cookiePatterns config).isCounted
        (e.protectCookies config r).2.scene.store.lookup = false) :
      ProtectionFails e config r .patternsNotCounted

/-- A method that was found as a setter stands on a jar that is an object. -/
theorem jar_of_patternSetter? {name : String} {routine : κ}
    (h : r.scene.patternSetter? config = some (name, .method routine)) :
    ∃ jar, r.scene.store.cookieJar r.scene.context.requestResult = .handle jar := by
  unfold Scene.patternSetter? at h
  split at h
  · obtain ⟨_, hattribute⟩ := Store.patternSetter?_eq_some h
    obtain ⟨jar, _, hjar, _⟩ := Store.attribute?_eq_method hattribute
    exact ⟨jar, hjar⟩
  · cases h

/-- A setter that does not take the patterns is a method that raises, or is nothing to call. -/
theorem protectionFails_of_callSetter {name : String} {setter : Store.Member κ}
    (hfound : r.scene.patternSetter? config = some (name, setter))
    (h : (e.callSetter (r.scene.store.cookieJar r.scene.context.requestResult) name setter
      (r.scene.store.cookiePatterns config) r).1 = .error err) :
    e.ProtectionFails config r err := by
  cases setter with
  | plain v =>
    have hother : v ≠ .callable := by
      rintro rfl
      simp [callSetter] at h
    obtain rfl : OperationError.setterNotCallable = err := by
      cases v <;> simp [callSetter] at h hother <;> exact h
    exact .notCallable hfound hother
  | method routine =>
    obtain ⟨jar, hjar⟩ := jar_of_patternSetter? hfound
    rw [hjar] at h
    cases hasync : e.collaborators.isAsync routine with
    | true => simp [callSetter, hasync] at h
    | false =>
      let m : Handover κ := ⟨jar, name, routine, r.scene.store.cookiePatterns config⟩
      have hhanded : e.handover? config r.scene = some m :=
        handover?_eq_some_iff.mpr ⟨hfound, hjar, rfl, hasync⟩
      unfold callSetter at h
      simp only [hasync, Bool.false_eq_true, if_false] at h
      split at h
      · rename_i f after hraised
        obtain rfl := Except.error.inj h
        exact .refused hhanded (congrArg Prod.fst hraised)
      · cases h

/-- Protecting cookies fails in these three ways, and in no other. -/
theorem protectCookies_eq_error_iff :
    (e.protectCookies config r).1 = .error err ↔ e.ProtectionFails config r err := by
  constructor
  · intro h
    cases hfound : r.scene.patternSetter? config with
    | none =>
      rw [protectCookies_of_none hfound] at h
      cases h
    | some found =>
      obtain ⟨name, setter⟩ := found
      have hprotect := protectCookies_of_some (e := e) hfound
      rw [hprotect] at h
      cases htaken : (e.callSetter (r.scene.store.cookieJar r.scene.context.requestResult) name
          setter (r.scene.store.cookiePatterns config) r).1 with
      | error raised =>
        rw [htaken] at h
        obtain rfl := Except.error.inj h
        exact protectionFails_of_callSetter hfound htaken
      | ok _ =>
        rw [htaken] at h
        dsimp only [Except.bind] at h
        split at h
        · cases h
        · rename_i huncounted
          obtain rfl := Except.error.inj h
          refine .notCounted hfound htaken ?_
          rw [hprotect]
          simpa using huncounted
  · intro h
    cases h with
    | refused handed raised =>
      rw [protectCookies_of_handover handed, raised]
      rfl
    | notCallable found plain =>
      rw [protectCookies_of_some found]
      unfold callSetter
      split
      · rename_i hmethod
        cases hmethod
      · rename_i hcallable
        exact absurd (Store.Member.plain.inj hcallable) plain
      · rfl
    | notCounted found taken uncounted =>
      have hprotect := protectCookies_of_some (e := e) found
      rw [hprotect] at uncounted
      rw [hprotect, taken]
      dsimp only [Except.bind] at uncounted ⊢
      rw [uncounted]
      rfl

/-! ### Operations -/

/-- What goes wrong in an operation, hazards among it. -/
inductive Fails (e : Engine κ σ) (loader : Loader) (input : ContextInput) (source : Source)
    (r : Run κ σ) (hz : Hazards κ σ) : OperationError → Prop
  | load {err : LoadError}
      (failed : loader.loadOperation r.scene.store.lookup source = .error err) :
      Fails e loader input source r hz (.load err)
  | context {config : Config} {err : OperationError}
      (loaded : loader.loadOperation r.scene.store.lookup source = .ok config)
      (failed : buildContext r.scene.store input = .error err) :
      Fails e loader input source r hz err
  /-- The settings cannot be written out, or patterns, jar or setter cannot be asked whether they
  count. -/
  | hindered {config : Config} {context : Context} {f : Failure}
      (loaded : loader.loadOperation r.scene.store.lookup source = .ok config)
      (built : buildContext r.scene.store input = .ok context)
      (failed : hz.unprotected? config (r.withContext fun _ => context).scene = some f) :
      Fails e loader input source r hz (.hindered f)
  | protection {config : Config} {context : Context} {err : OperationError}
      (loaded : loader.loadOperation r.scene.store.lookup source = .ok config)
      (built : buildContext r.scene.store input = .ok context)
      (unhindered : hz.unprotected? config (r.withContext fun _ => context).scene = none)
      (failed : e.ProtectionFails config (r.withContext fun _ => context) err) :
      Fails e loader input source r hz err
  /-- Cookies are protected, and the run meets a hazard. -/
  | hazard {config : Config} {context : Context} {f : Failure} {s : Run κ σ}
      (loaded : loader.loadOperation r.scene.store.lookup source = .ok config)
      (built : buildContext r.scene.store input = .ok context)
      (unhindered : hz.unprotected? config (r.withContext fun _ => context).scene = none)
      (shielded : (e.protectCookies config (r.withContext fun _ => context)).1 = .ok ())
      (met : e.Meets hz config (e.opening config (r.withContext fun _ => context)) f s) :
      Fails e loader input source r hz (.raised f)

theorem startInstant_opening (e : Engine κ σ) (config : Config) (r : Run κ σ) :
    startInstant (e.opening config r).scene = (e.protectCookies config r).2.scene.clock := by
  unfold startInstant opening
  dsimp only [Run.withContext]
  split <;> rfl

section Amid

variable {hz : Hazards κ σ}

theorem executeOperation_eq_amid
    (hload : loader.loadOperation r.scene.store.lookup source = .ok config)
    (hbuild : buildContext r.scene.store input = .ok context) :
    e.executeOperation loader input source r hz =
      e.runInContext config (r.withContext fun _ => context) hz := by
  unfold executeOperation runConfig
  simp only [hload, hbuild]

theorem runInContext_of_hindered {f : Failure} (h : hz.unprotected? config r.scene = some f) :
    e.runInContext config r hz = (.error (.hindered f), r) := by
  unfold runInContext
  rw [h]

/-- Once cookies are protected, a run whose times are in range meets a hazard or comes to its
account. -/
theorem runInContext_meets_or_returns (hfree : hz.unprotected? config r.scene = none)
    (hprotect : (e.protectCookies config r).1 = .ok ())
    (hclock : Clock.InRange (e.protectCookies config r).2.scene.clock
      (e.runInContext config r hz).2.scene.clock) :
    (∃ f s, e.Meets hz config (e.opening config r) f s) ∨
      ∃ result, (e.runInContext config r hz).1 = .ok result ∧ Tallies config.commands.length
        (e.runInContext config r hz).2.scene.context.results result := by
  rw [runInContext_of_shielded hfree hprotect] at hclock ⊢
  have hstart : (e.opening config r).scene.context.startTime = .null ∨
      ∃ x, (e.opening config r).scene.context.startTime = .float x := .inr ⟨_, rfl⟩
  rw [← startInstant_opening] at hclock
  obtain ⟨_, hreturns⟩ := execute_raises_at_hazards_only hstart hclock
  by_cases hmeets : ∃ f s, e.Meets hz config (e.opening config r) f s
  · exact .inl hmeets
  · obtain ⟨result, hreturn, _, htallies⟩ := hreturns fun f s h => hmeets ⟨f, s, h⟩
    refine .inr ⟨result, ?_, htallies⟩
    rw [hreturn]
    rfl

/-- Whatever goes wrong is what the operation raises. -/
theorem Fails.error_eq (h : e.Fails loader input source r hz err) :
    (e.executeOperation loader input source r hz).1 = .error err := by
  cases h with
  | load failed =>
    unfold executeOperation
    rw [failed]
  | context loaded failed =>
    unfold executeOperation runConfig
    simp only [loaded, failed]
  | hindered loaded built failed =>
    rw [executeOperation_eq_amid loaded built, runInContext_of_hindered failed]
  | protection loaded built unhindered failed =>
    have hprotect := protectCookies_eq_error_iff.mpr failed
    rw [executeOperation_eq_amid loaded built, runInContext_of_unshielded unhindered hprotect]
  | hazard loaded built unhindered shielded met =>
    rw [executeOperation_eq_amid loaded built, runInContext_of_shielded unhindered shielded,
      execute_of_meets met]
    rfl

/-- An operation fails, or it comes to the account of its run. -/
theorem fails_or_returns
    (hclock : ∀ config context, loader.loadOperation r.scene.store.lookup source = .ok config →
      buildContext r.scene.store input = .ok context →
        Clock.InRange (e.protectCookies config (r.withContext fun _ => context)).2.scene.clock
          (e.executeOperation loader input source r hz).2.scene.clock) :
    (∃ err, e.Fails loader input source r hz err) ∨ ∃ config result,
      loader.loadOperation r.scene.store.lookup source = .ok config ∧
        (e.executeOperation loader input source r hz).1 = .ok result ∧
          Tallies config.commands.length
            (e.executeOperation loader input source r hz).2.scene.context.results result := by
  cases hload : loader.loadOperation r.scene.store.lookup source with
  | error err => exact .inl ⟨_, .load hload⟩
  | ok config =>
    cases hbuild : buildContext r.scene.store input with
    | error err => exact .inl ⟨_, .context hload hbuild⟩
    | ok context =>
      cases hhindered : hz.unprotected? config (r.withContext fun _ => context).scene with
      | some f => exact .inl ⟨_, .hindered hload hbuild hhindered⟩
      | none =>
        cases hprotect : (e.protectCookies config (r.withContext fun _ => context)).1 with
        | error err =>
          exact .inl ⟨_, .protection hload hbuild hhindered
            (protectCookies_eq_error_iff.mp hprotect)⟩
        | ok _ =>
          have hrange := hclock config context hload hbuild
          rw [executeOperation_eq_amid hload hbuild] at hrange ⊢
          rcases runInContext_meets_or_returns hhindered hprotect hrange with
            ⟨f, s, hmet⟩ | ⟨result, hreturn, htallies⟩
          · exact .inl ⟨_, .hazard hload hbuild hhindered hprotect hmet⟩
          · exact .inr ⟨config, result, rfl, hreturn, htallies⟩

end Amid

/-- When an operation comes to no result. It has none exactly when its configuration cannot be
loaded; its context does not pass the check; its settings cannot be written out or patterns, jar or
setter cannot be asked whether they count; the setter of its cookie jar raises or cannot be called;
the patterns that were handed over cannot be counted; or its run meets a hazard. What it raises says
which of these it was, and in all other cases it comes to the account of its run. All that is asked
is that the times of the run are in range. -/
theorem operation_fails_or_returns (e : Engine κ σ) (loader : Loader) (input : ContextInput)
    (source : Source) (r : Run κ σ) (hz : Hazards κ σ)
    (hclock : ∀ config context, loader.loadOperation r.scene.store.lookup source = .ok config →
      buildContext r.scene.store input = .ok context →
        Clock.InRange (e.protectCookies config (r.withContext fun _ => context)).2.scene.clock
          (e.executeOperation loader input source r hz).2.scene.clock) :
    let ended := e.executeOperation loader input source r hz
    (∀ err, ended.1 = .error err ↔ e.Fails loader input source r hz err) ∧
      ((∀ err, ¬ e.Fails loader input source r hz err) → ∃ config result,
        loader.loadOperation r.scene.store.lookup source = .ok config ∧ ended.1 = .ok result ∧
          Tallies config.commands.length ended.2.scene.context.results result) := by
  intro ended
  have hcases := fails_or_returns hclock
  refine ⟨fun err => ⟨fun h => ?_, Fails.error_eq⟩, fun hnone => ?_⟩
  · rcases hcases with ⟨raised, hfails⟩ | ⟨config, result, _, hreturn, _⟩
    · obtain rfl := Except.error.inj (hfails.error_eq.symm.trans h)
      exact hfails
    · cases hreturn.symm.trans h
  · rcases hcases with ⟨raised, hfails⟩ | hreturns
    · exact absurd hfails (hnone raised)
    · exact hreturns

theorem refusing_jar_ends_operation :
    let refusal : Failure := ⟨"PermissionError", "read-only"⟩
    let patterns := Value.list [.text "session*"]
    let r := guardedRun .object { answer := .error refusal }
    let ended := Part.engine.executeOperation ⟨[], .empty⟩ guardedInput
      (.value (guardedConfig patterns).toDocument) r
    Clock.InRange 1000.0 ended.2.scene.clock ∧ ended.1 = .error (.refused refusal) := by
  intro refusal patterns r ended
  have hload : Loader.loadOperation ⟨[], .empty⟩ r.scene.store.lookup
      (.value (guardedConfig patterns).toDocument) = .ok (guardedConfig patterns) := rfl
  have hbuild := buildContext_guardedInput r.scene.store
  have hrange : Clock.InRange 1000.0 ended.2.scene.clock := by
    have hclock : ended.2.scene.clock = 1000.0 := by
      rw [show ended = _ from executeOperation_eq hload hbuild]
      rfl
    rw [hclock]
    exact ⟨⟨_, rfl⟩, ⟨_, rfl⟩⟩
  obtain ⟨hfails, _⟩ := operation_fails_or_returns Part.engine ⟨[], .empty⟩
    guardedInput (.value (guardedConfig patterns).toDocument) r .never (by
      intro config context hloaded hbuilt
      obtain rfl := Except.ok.inj (hload.symm.trans hloaded)
      obtain rfl := Except.ok.inj (hbuild.symm.trans hbuilt)
      exact hrange)
  have hhanded : Part.engine.handover? (guardedConfig patterns)
      (r.withContext fun _ => { requestResult := guardedSession }).scene =
        some ⟨.named "jar", "set_auto_protect_patterns", { answer := .error refusal }, patterns⟩ :=
    rfl
  exact ⟨hrange, (hfails _).mpr
    (.protection hload hbuild (unprotected?_never _ _) (.refused hhanded rfl))⟩

/-- Settings that load as they are end an operation: a number is handed over to the jar, which takes
it, and then it cannot be counted. -/
theorem uncounted_patterns_counterexample :
    let setter := Part.reporting true []
    let config := guardedConfig (.int 5)
    let r := guardedRun .object setter
    let opened := r.withContext fun _ => { requestResult := guardedSession }
    let ended := Part.engine.executeOperation ⟨[], .empty⟩ guardedInput
      (.value config.toDocument) r
    Loader.loadOperation ⟨[], .empty⟩ r.scene.store.lookup (.value config.toDocument) =
        .ok config ∧
      buildContext r.scene.store guardedInput = .ok { requestResult := guardedSession } ∧
      (opened.callMethod Part.collaborators setter (.named "jar") "set_auto_protect_patterns"
        [.int 5]).1 = .ok () ∧
      ended.1 = .error .patternsNotCounted := by
  intro setter config r opened ended
  have hload : Loader.loadOperation ⟨[], .empty⟩ r.scene.store.lookup (.value config.toDocument) =
      .ok config := rfl
  have hbuild := buildContext_guardedInput r.scene.store
  have hfound : opened.scene.patternSetter? config =
      some ("set_auto_protect_patterns", .method setter) := rfl
  have hfails : Part.engine.ProtectionFails config opened .patternsNotCounted :=
    .notCounted hfound rfl rfl
  exact ⟨hload, hbuild, rfl, Fails.error_eq
    (.protection hload hbuild (unprotected?_never _ _) hfails)⟩

end Engine

end Playbook
