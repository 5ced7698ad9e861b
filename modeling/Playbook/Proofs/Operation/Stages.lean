import Playbook.Proofs.Config.Loading
import Playbook.Proofs.Operation.Failures

/-!
How far an operation gets before it raises. The configuration is loaded first, then the context is
built, then cookies are protected, and only then are commands run. The first two stages look and do
not touch, so an operation that raises in one of them leaves the process as it was; and since they
come in that order, a configuration that cannot be loaded is reported whatever the context is like.
Protecting cookies makes one call at most, that of the setter, and no command has been announced by
then.
-/

namespace Playbook

variable {κ σ : Type}

/-- The stages of an operation that it can raise in. -/
inductive Stage where
  | loading
  | building
  | protecting
  | running
  deriving Repr, DecidableEq

def OperationError.stage : OperationError → Stage
  | .load _ => .loading
  | .context _ | .contextShape _ => .building
  | .refused _ | .setterNotCallable | .patternsNotCounted | .hindered _ => .protecting
  | .clock _ | .raised _ => .running

theorem OperationError.stage_of_freshContext {μ : Type} {store : Store μ} {fields : Entries}
    {err : OperationError} (h : freshContext store fields = .error err) : err.stage = .building := by
  unfold freshContext at h
  split at h
  · cases h
  · cases h
    rfl

theorem OperationError.stage_of_buildContext {μ : Type} {store : Store μ} {input : ContextInput}
    {err : OperationError} (h : buildContext store input = .error err) : err.stage = .building := by
  cases input with
  | nothing => cases h
  | context o => exact stage_of_freshContext h
  | value v =>
    unfold buildContext at h
    dsimp only at h
    split at h
    · cases h
      rfl
    · exact stage_of_freshContext h

namespace Engine

variable {e : Engine κ σ} {loader : Loader} {argument : ContextArgument} {source : Source}
  {contexts : List ContextObject} {config : Config} {context : Context} {r : Run κ σ}
  {err : OperationError}

theorem ProtectionFails.stage_eq (h : e.ProtectionFails config r err) : err.stage = .protecting := by
  cases h <;> rfl

/-- A run raises in the first of its two stages, which then is all that has happened, or in the
second one. -/
theorem runInContext_error (h : (e.runInContext config r).1 = .error err) :
    (e.ProtectionFails config r err ∧
      (e.runInContext config r).2 = e.callHandover (e.handover? config r.scene) r) ∨
      err.stage = .running := by
  cases hprotect : (e.protectCookies config r).1 with
  | error raised =>
    have hrun := runInContext_of_error hprotect
    rw [hrun] at h ⊢
    obtain rfl := Except.error.inj h
    exact .inl ⟨protectCookies_eq_error_iff.mp hprotect, run_protectCookies e config r⟩
  | ok _ =>
    have hrun := runInContext_of_ok hprotect
    rw [hrun] at h
    refine .inr ?_
    cases hexecute : (e.execute config (e.opening config r)).1 with
    | error escape =>
      rw [hexecute] at h
      obtain rfl : OperationError.ofEscape escape = err := Except.error.inj h
      cases escape <;> rfl
    | ok result =>
      rw [hexecute] at h
      cases h

/-! ### Operations by their stages -/

theorem operate_of_unloadable {failed : LoadError}
    (hload : loader.loadOperation r.scene.store.lookup source = .error failed) :
    e.operate loader argument source contexts r = ⟨.error (.load failed), contexts, r⟩ := by
  unfold operate
  rw [hload]

theorem operate_of_unfit (hload : loader.loadOperation r.scene.store.lookup source = .ok config)
    (hbuild : buildContext r.scene.store (argument.read contexts) = .error err) :
    e.operate loader argument source contexts r = ⟨.error err, contexts, r⟩ := by
  unfold operate
  simp only [hload, hbuild]

theorem operate_of_fit (hload : loader.loadOperation r.scene.store.lookup source = .ok config)
    (hbuild : buildContext r.scene.store (argument.read contexts) = .ok context) :
    let ended := e.runInContext config (r.withContext fun _ => context)
    (e.operate loader argument source contexts r).outcome = ended.1 ∧
      (e.operate loader argument source contexts r).run = ended.2 := by
  intro ended
  constructor
  · unfold operate
    simp only [hload, hbuild]
    rfl
  · unfold operate
    simp only [hload, hbuild]
    rfl

/-- An operation that raises, and the stage that it raises in: the first one that something is wrong
with. -/
theorem operate_error (h : (e.operate loader argument source contexts r).outcome = .error err) :
    (∃ failed, loader.loadOperation r.scene.store.lookup source = .error failed ∧
      err = .load failed) ∨
    (∃ config, loader.loadOperation r.scene.store.lookup source = .ok config ∧
      buildContext r.scene.store (argument.read contexts) = .error err) ∨
    ∃ config context, loader.loadOperation r.scene.store.lookup source = .ok config ∧
      buildContext r.scene.store (argument.read contexts) = .ok context ∧
      (e.runInContext config (r.withContext fun _ => context)).1 = .error err := by
  cases hload : loader.loadOperation r.scene.store.lookup source with
  | error failed =>
    rw [operate_of_unloadable hload] at h
    exact .inl ⟨failed, rfl, (Except.error.inj h).symm⟩
  | ok config =>
    cases hbuild : buildContext r.scene.store (argument.read contexts) with
    | error unfit =>
      rw [operate_of_unfit hload hbuild] at h
      obtain rfl := Except.error.inj h
      exact .inr (.inl ⟨config, rfl, rfl⟩)
    | ok context =>
      rw [(operate_of_fit hload hbuild).1] at h
      exact .inr (.inr ⟨config, context, rfl, rfl, h⟩)

theorem stage_of_runInContext {raised : OperationError}
    (h : (e.runInContext config r).1 = .error raised) :
    raised.stage ≠ .loading ∧ raised.stage ≠ .building := by
  rcases runInContext_error h with ⟨hfails, _⟩ | hstage
  · rw [hfails.stage_eq]
    exact ⟨nofun, nofun⟩
  · rw [hstage]
    exact ⟨nofun, nofun⟩

/-- What is wrong with a source is reported whatever is wrong besides. -/
theorem operate_unloadable_iff {failed : LoadError} :
    (e.operate loader argument source contexts r).outcome = .error (.load failed) ↔
      loader.loadOperation r.scene.store.lookup source = .error failed := by
  constructor
  · intro h
    rcases operate_error h with ⟨_, hload, heq⟩ | ⟨_, _, hbuild⟩ | ⟨_, _, _, _, hraised⟩
    · obtain rfl := OperationError.load.inj heq
      exact hload
    · cases OperationError.stage_of_buildContext hbuild
    · exact absurd rfl (stage_of_runInContext hraised).1
  · intro hload
    exact congrArg Operated.outcome (operate_of_unloadable hload)

theorem exists_config_of_unfit
    (h : (e.operate loader argument source contexts r).outcome = .error err)
    (hstage : err.stage = .building) :
    ∃ config, loader.loadOperation r.scene.store.lookup source = .ok config ∧
      buildContext r.scene.store (argument.read contexts) = .error err := by
  rcases operate_error h with ⟨_, _, rfl⟩ | hunfit | ⟨_, _, _, _, hraised⟩
  · cases hstage
  · exact hunfit
  · exact absurd hstage (stage_of_runInContext hraised).2

/-- The first two stages leave the process as it was. -/
theorem operate_keeps_all
    (h : (e.operate loader argument source contexts r).outcome = .error err)
    (hstage : err.stage = .loading ∨ err.stage = .building) :
    (e.operate loader argument source contexts r).run = r ∧
      (e.operate loader argument source contexts r).contexts = contexts := by
  rcases operate_error h with ⟨_, hload, rfl⟩ | ⟨_, hload, hbuild⟩ | ⟨_, _, _, _, hraised⟩
  · rw [operate_of_unloadable hload]
    exact ⟨rfl, rfl⟩
  · rw [operate_of_unfit hload hbuild]
    exact ⟨rfl, rfl⟩
  · obtain ⟨hloading, hbuilding⟩ := stage_of_runInContext hraised
    rcases hstage with hstage | hstage
    · exact absurd hstage hloading
    · exact absurd hstage hbuilding

/-- When protecting cookies fails, handing the patterns over is all that has happened. -/
theorem operate_run_of_protecting
    (h : (e.operate loader argument source contexts r).outcome = .error err)
    (hstage : err.stage = .protecting) :
    ∃ config context, e.ProtectionFails config (r.withContext fun _ => context) err ∧
      (e.operate loader argument source contexts r).run =
        e.callHandover (e.handover? config (r.withContext fun _ => context).scene)
          (r.withContext fun _ => context) := by
  rcases operate_error h with ⟨_, _, rfl⟩ | ⟨_, _, hbuild⟩ | ⟨config, context, hload, hbuild, hraised⟩
  · cases hstage
  · cases hstage.symm.trans (OperationError.stage_of_buildContext hbuild)
  · rcases runInContext_error hraised with ⟨hfails, hrun⟩ | hrunning
    · exact ⟨config, context, hfails, (operate_of_fit hload hbuild).2.trans hrun⟩
    · cases hstage.symm.trans hrunning

/-- Nothing happens before an operation is known to be good. It raises that its source cannot be
loaded exactly when that is so, whatever its context is like; it raises that its context is unfit
only for a source that was loaded; and in both cases every object, every registry, the clock and the
events are as they were. When protecting cookies goes wrong, the setter of the cookie jar is all
that may have been called: no executor was, and nobody was told of progress. -/
theorem nothing_happens_before_operation_is_good (e : Engine κ σ) (loader : Loader)
    (argument : ContextArgument) (source : Source) (contexts : List ContextObject) (r : Run κ σ) :
    let ended := e.operate loader argument source contexts r
    (∀ failed, ended.outcome = .error (.load failed) ↔
      loader.loadOperation r.scene.store.lookup source = .error failed) ∧
    (∀ err, ended.outcome = .error err → err.stage = .building →
      ∃ config, loader.loadOperation r.scene.store.lookup source = .ok config ∧
        buildContext r.scene.store (argument.read contexts) = .error err) ∧
    (∀ err, ended.outcome = .error err → err.stage = .loading ∨ err.stage = .building →
      ended.run = r ∧ ended.contexts = contexts) ∧
    (∀ err, ended.outcome = .error err → err.stage = .protecting →
      ∃ setter : Option (Handover κ),
        ended.run.trace = r.trace ++ (setter.map Handover.event).toList) ∧
    ∀ f, ended.outcome = .error (.refused f) → ∃ (setter : Handover κ) (context : Context),
      let opened := r.withContext fun _ => context
      (e.handOver setter opened).1 = .error f ∧ ended.run = (e.handOver setter opened).2 ∧
        ended.run.trace = r.trace ++ [setter.event] := by
  intro ended
  refine ⟨fun failed => operate_unloadable_iff, fun err => exists_config_of_unfit,
    fun err => operate_keeps_all, ?_, ?_⟩
  · intro err h hstage
    obtain ⟨config, context, _, hrun⟩ := operate_run_of_protecting h hstage
    refine ⟨e.handover? config (r.withContext fun _ => context).scene, ?_⟩
    rw [show ended.run = _ from hrun, trace_callHandover]
    rfl
  · intro f h
    obtain ⟨config, context, hfails, hrun⟩ := operate_run_of_protecting h rfl
    cases hfails with
    | refused handed raised =>
      rw [handed] at hrun
      have hended : ended.run = _ := hrun
      refine ⟨_, context, raised, hended, ?_⟩
      rw [hended, trace_callHandover]
      rfl

/-- No field of a context is called `windows`. -/
theorem buildContext_of_misspelt {μ : Type} (store : Store μ) :
    buildContext store (.value (.ofFields [("windows", .null)])) =
      .error (.context [⟨[.key "windows"], .undeclared⟩]) := by
  have hcleared : Context.cleared [(.text "windows", .null)] =
      [(.text "windows", .null), (.text "results", .list []), (.text "start_time", .null)] := by
    cbv
  have hchecked : Context.check 0 store.lookup
      (.map [(.text "windows", .null), (.text "results", .list []), (.text "start_time", .null)]) =
        .fail [⟨[.key "windows"], .undeclared⟩] := rfl
  change freshContext store [(.text "windows", .null)] = _
  unfold freshContext
  simp only [hcleared, hchecked]

/-- A path that leads to no file, given along with a context that is none; that context with a
configuration that can be loaded; and a cookie jar that refuses patterns. -/
theorem raised_operations_do_nothing_before :
    let refusal : Failure := ⟨"PermissionError", "read-only"⟩
    let config := guardedConfig (.list [.text "session*"])
    let unfit := ContextArgument.value (.ofFields [("windows", .null)])
    let r := guardedRun .object { answer := .error refusal }
    let nowhere := Disk.pathText (Disk.empty.resolve "a.yaml")
    let missing := Part.engine.operate ⟨[], .empty⟩ unfit (.path "a.yaml") [] r
    let unread := Part.engine.operate ⟨[], .empty⟩ unfit (.value config.toDocument) [] r
    let refused := Part.engine.operate ⟨[], .empty⟩
      (.value (.ofFields [("request_result", guardedSession)])) (.value config.toDocument) [] r
    (missing.outcome = .error (.load (.config (.fileNotFound nowhere))) ∧ missing.run = r) ∧
      (unread.outcome = .error (.context [⟨[.key "windows"], .undeclared⟩]) ∧ unread.run = r) ∧
      (refused.outcome = .error (.refused refusal) ∧
        ∃ setter : Handover Part, refused.run.trace = [setter.event]) := by
  intro refusal config unfit r nowhere missing unread refused
  have hnofile : Loader.loadOperation ⟨[], .empty⟩ r.scene.store.lookup (.path "a.yaml") =
      .error (.config (.fileNotFound nowhere)) := by
    have hfile : Loader.loadFile ⟨[], .empty⟩ "a.yaml" = .error (.config (.fileNotFound nowhere)) :=
      Loader.loadFile_of_missing (Disk.resolve_surroundings (by decide))
        (Disk.isFile_surroundings (by decide +kernel))
    exact hfile
  have hload : Loader.loadOperation ⟨[], .empty⟩ r.scene.store.lookup (.value config.toDocument) =
      .ok config := rfl
  have hbuild : buildContext r.scene.store
      ((ContextArgument.value (.ofFields [("request_result", guardedSession)])).read []) =
        .ok { requestResult := guardedSession } :=
    buildContext_guardedInput r.scene.store
  have hhanded : Part.engine.handover? config
      (r.withContext fun _ => { requestResult := guardedSession }).scene =
        some ⟨.named "jar", "set_auto_protect_patterns", { answer := .error refusal },
          .list [.text "session*"]⟩ := rfl
  obtain ⟨hmissing, _, hmissingKept, _⟩ := nothing_happens_before_operation_is_good
    Part.engine ⟨[], .empty⟩ unfit (.path "a.yaml") [] r
  obtain ⟨_, _, hunreadKept, _⟩ := nothing_happens_before_operation_is_good
    Part.engine ⟨[], .empty⟩ unfit (.value config.toDocument) [] r
  obtain ⟨_, _, _, _, hrefusedRun⟩ := nothing_happens_before_operation_is_good
    Part.engine ⟨[], .empty⟩ (.value (.ofFields [("request_result", guardedSession)]))
      (.value config.toDocument) [] r
  have hmissed : missing.outcome = _ := (hmissing _).mpr hnofile
  have hunfit : buildContext r.scene.store (unfit.read []) =
      .error (.context [⟨[.key "windows"], .undeclared⟩]) :=
    buildContext_of_misspelt r.scene.store
  have hunread : unread.outcome = .error (.context [⟨[.key "windows"], .undeclared⟩]) := by
    have hended : unread = _ := operate_of_unfit hload hunfit
    rw [hended]
  have hrefused : refused.outcome = .error (.refused refusal) := by
    have hfails := ProtectionFails.refused hhanded rfl
    rw [show refused.outcome = _ from (operate_of_fit hload hbuild).1,
      runInContext_of_error (protectCookies_eq_error_iff.mpr hfails)]
  obtain ⟨setter, context, _, _, htrace⟩ := hrefusedRun refusal hrefused
  refine ⟨⟨hmissed, (hmissingKept _ hmissed (.inl rfl)).1⟩,
    ⟨hunread, (hunreadKept _ hunread (.inr rfl)).1⟩, hrefused, setter, htrace⟩

end Engine

end Playbook
