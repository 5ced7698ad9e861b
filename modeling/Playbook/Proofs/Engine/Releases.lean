import Playbook.Proofs.Engine.Events

/-!
Releases of windows. An attempt that replaces the active window releases it with one call of a
method at most. The result is noted by then and the old window is still in its place; the new one
comes after it. What the call answers is not looked at.
-/

namespace Playbook

variable {κ σ : Type}

def Event.isMethod : Event → Bool
  | .method _ _ _ => true
  | _ => false

/-- A choice of events among which are neither reports nor calls of executors. -/
structure Event.Beside (p : Event → Bool) : Prop where
  progress : ∀ q, p (.progress q) = false
  call : ∀ name index window, p (.call name index window) = false

/-- The calls of methods so far. -/
def Run.methods (r : Run κ σ) : List Event := r.trace.filter Event.isMethod

namespace Store

variable {μ : Type} {s : Store μ} {window : Value} {m : Release μ}

/-- A method that releases a window is `abort` of its entry, or `close` of the window itself when
the entry shows nothing to abort it by. -/
theorem releaser?_cases (h : s.releaser? window = some m) :
    (m.name = "abort" ∧ .handle m.owner = s.abortEntry window) ∨
      (m.name = "close" ∧ .handle m.owner = window ∧
        s.presentAttribute? (s.abortEntry window) "abort" = none) := by
  have hcallable {owner : Value} {name : String} {found : Member μ}
      (h : callable? owner name found = some m) : m.name = name ∧ .handle m.owner = owner := by
    cases found with
    | plain v => cases h
    | method routine =>
      cases owner <;> cases h
      exact ⟨rfl, rfl⟩
  unfold releaser? at h
  cases habort : s.presentAttribute? (s.abortEntry window) "abort" with
  | some found =>
    rw [habort] at h
    exact .inl (hcallable h)
  | none =>
    rw [habort] at h
    obtain ⟨found, _, hfound⟩ := Option.bind_eq_some_iff.mp h
    obtain ⟨hname, howner⟩ := hcallable hfound
    exact .inr ⟨hname, howner, rfl⟩

end Store

namespace Engine

/-- The call by which an attempt releases the window that it replaces. -/
def released (e : Engine κ σ) (a : Attempt κ σ) : List Event :=
  ((e.releaser? a).map Release.event).toList

variable {e : Engine κ σ} {start : Value} {total index : Nat} {command : Command}
  {r r' : Run κ σ} {a : Attempt κ σ} {f : Clock.Fault}

/-! ### What is called -/

theorem released?_eq_some_iff {old : Value} :
    e.released? a = some old ↔
      e.config.releases = true ∧ old.isNull = false ∧ old = a.dispatched.scene.context.window ∧
        ∃ w, e.newWindow? a = some w ∧ old.isSameObject w = false := by
  unfold released?
  cases hwindow : e.newWindow? a with
  | none => simp
  | some w =>
    simp only [Option.bind_some]
    constructor
    · intro h
      split at h
      · rename_i hcond
        obtain rfl := Option.some.inj h
        simp only [Bool.and_eq_true, Bool.not_eq_true'] at hcond
        exact ⟨hcond.1.1, hcond.1.2, rfl, w, rfl, hcond.2⟩
      · cases h
    · rintro ⟨hreleases, hnull, rfl, w', hw, hsame⟩
      obtain rfl := Option.some.inj hw
      simp [hreleases, hnull, hsame]

theorem filter_progress {p : Event → Bool} (hp : Event.Beside p) (q : Option Progress) :
    (q.map Event.progress).toList.filter p = [] := by
  cases q with
  | none => rfl
  | some q => exact List.filter_cons_of_neg (by simp [hp.progress])

theorem filter_call {p : Event → Bool} (hp : Event.Beside p) (e : Engine κ σ) (command : Command)
    (index : Nat) (r : Run κ σ) : (e.call? command index r).toList.filter p = [] := by
  unfold call?
  cases (r.scene.registries.get e.registry).get? command.name with
  | none => rfl
  | some _ => exact List.filter_cons_of_neg (by simp [hp.call])

theorem Reaches.filter_recorded {p : Event → Bool} (hp : Event.Beside p)
    (reached : e.Reaches start total a) :
    a.recorded.trace.filter p = a.opened.trace.filter p ++ (e.released a).filter p := by
  rw [reached.trace_recorded]
  simp only [List.filter_append, filter_progress hp, filter_call hp, List.append_nil]
  rfl

theorem Makes.filter_closed {p : Event → Bool} (hp : Event.Beside p)
    (made : e.Makes start total a) :
    a.closed.trace.filter p = a.opened.trace.filter p ++ (e.released a).filter p := by
  have hreport := trace_emitProgress e total a.index a.command.name a.status start a.recorded
  rw [made.report] at hreport
  rw [hreport, List.filter_append, filter_progress hp, List.append_nil,
    made.reaches.filter_recorded hp]

/-- An attempt that is broken off adds nothing of such a choice, or it adds what an attempt adds
that is made up to its report. -/
theorem Breaks.filter_trace {p : Event → Bool} (hp : Event.Beside p)
    (h : e.Breaks start total index command r f r') :
    r'.trace.filter p = r.trace.filter p ∨
      ∃ a, e.Reaches start total a ∧
        r'.trace.filter p = r.trace.filter p ++ (e.released a).filter p := by
  cases h with
  | announce => exact .inl rfl
  | @dispatch announced _ announce failed =>
    have hannounce := trace_emitProgress e total index command.name .running start r
    have hdispatch := trace_dispatch e command index announced
    rw [announce] at hannounce
    rw [failed] at hdispatch
    left
    rw [hdispatch, hannounce]
    simp only [List.filter_append, filter_progress hp, filter_call hp, List.append_nil]
  | @report a reached _ _ hopened _ =>
    refine .inr ⟨a, reached, ?_⟩
    rw [reached.filter_recorded hp, hopened]

/-- Through any run, only releases add to a choice of events with no reports and no calls of
executors in it. -/
theorem Goes.filter_trace {p : Event → Bool} (hp : Event.Beside p) {commands : List Command}
    {row : List (Attempt κ σ)} {outcome : Except Escape Unit}
    (h : e.Goes start total index commands r row outcome r') :
    ∃ broken : List Event,
      r'.trace.filter p =
        r.trace.filter p ++ row.flatMap (fun a => (e.released a).filter p) ++ broken ∧
      (outcome = .ok () → broken = []) ∧
      (broken = [] ∨ ∃ a, e.Reaches start total a ∧ broken = (e.released a).filter p) := by
  -- What a run that is broken off adds at its end goes through the induction unchanged.
  induction h with
  | through => exact ⟨[], by simp, fun _ => rfl, .inl rfl⟩
  | fault failed =>
    rcases (breaks_of_attempt failed).filter_trace hp with hnone | ⟨a, reached, hone⟩
    · exact ⟨[], by simpa using hnone, nofun, .inl rfl⟩
    · exact ⟨_, by simpa using hone, nofun, .inr ⟨a, reached, rfl⟩⟩
  | halt made _ => exact ⟨[], by simpa using made.filter_closed hp, fun _ => rfl, .inl rfl⟩
  | next made _ _ ih =>
    obtain ⟨broken, htrace, hok, hbroken⟩ := ih
    refine ⟨broken, ?_, hok, hbroken⟩
    rw [htrace, made.filter_closed hp, List.flatMap_cons]
    simp only [List.append_assoc]

theorem filter_methods_released (e : Engine κ σ) (a : Attempt κ σ) :
    (e.released a).filter Event.isMethod = e.released a := by
  unfold released
  cases e.releaser? a <;> rfl

/-- Through any run, the methods that are called are those that release the windows replaced by its
attempts, one after another. -/
theorem Goes.methods {commands : List Command} {row : List (Attempt κ σ)}
    {outcome : Except Escape Unit}
    (h : e.Goes start total index commands r row outcome r') :
    ∃ broken : List Event, r'.methods = r.methods ++ row.flatMap e.released ++ broken ∧
      (outcome = .ok () → broken = []) ∧
      (broken = [] ∨ ∃ a, e.Reaches start total a ∧ broken = e.released a) := by
  have hmethods := h.filter_trace (p := Event.isMethod) ⟨fun _ => rfl, fun _ _ _ => rfl⟩
  simp only [filter_methods_released] at hmethods
  exact hmethods

/-! ### In which order -/

/-- The order of things in an attempt that replaces the active window by `w`. -/
structure Replaces (e : Engine κ σ) (a : Attempt κ σ) (w : Value) : Prop where
  /-- When the old window is released, the result is recorded, and the old window is in place. -/
  noted : a.noted.scene.context =
    { a.dispatched.scene.context with results := a.dispatched.scene.context.results ++ [a.result] }
  freed : e.freed a = e.callRelease (e.releaser? a) a.noted
  /-- Then the new one is put in place, and its session state is adopted. -/
  installed : a.recorded = adoptState w ((e.freed a).withContext fun c => { c with window := w })
  active : a.recorded.scene.context.window = w

theorem Reaches.replaces (reached : e.Reaches start total a) {w : Value}
    (h : e.newWindow? a = some w) : e.Replaces a w where
  noted := rfl
  freed := freed_eq e a
  installed := by rw [← reached.record, record_of_some h]
  active := by
    rw [← reached.record, record_of_some h, context_adoptState]
    rfl

/-- An attempt that releases a window calls one method, once, and touches the new window only when
this is what the old one has for its entry to abort. -/
structure Releases (e : Engine κ σ) (a : Attempt κ σ) (old : Value) (m : Release κ) : Prop where
  called : e.released a = [m.event]
  method : (m.name = "abort" ∧ .handle m.owner = a.noted.scene.store.abortEntry old) ∨
    (m.name = "close" ∧ .handle m.owner = old ∧
      a.noted.scene.store.presentAttribute? (a.noted.scene.store.abortEntry old) "abort" = none)
  spares : ∀ w, e.newWindow? a = some w → (Value.handle m.owner).isSameObject w = true →
    m.name = "abort" ∧ .handle m.owner = a.noted.scene.store.abortEntry old

theorem releases_of_releaser? {m : Release κ} (h : e.releaser? a = some m) :
    ∃ old, e.released? a = some old ∧ e.Releases a old m := by
  obtain ⟨old, hold, hm⟩ := Option.bind_eq_some_iff.mp h
  have hcases := Store.releaser?_cases hm
  refine ⟨old, hold, ?_, hcases, ?_⟩
  · simp only [released, h, Option.map_some, Option.toList_some]
  · intro w hw hsame
    obtain ⟨_, _, _, w', hw', hother⟩ := released?_eq_some_iff.mp hold
    obtain rfl := Option.some.inj (hw.symm.trans hw')
    rcases hcases with habort | ⟨_, howner, _⟩
    · exact habort
    · -- The window itself is not called when it stays in place.
      rw [howner, hother] at hsame
      cases hsame

/-! ### Engines that release otherwise -/

/-- Two engines do the same, except that what the methods of windows do and whether windows are
released at all may be different. -/
structure SameButReleases (e e' : Engine κ σ) : Prop where
  execute : e'.collaborators.execute = e.collaborators.execute
  notify : e'.collaborators.notify = e.collaborators.notify
  registry : e'.registry = e.registry
  replacing : e'.config.replacing = e.config.replacing
  callback : e'.callback? = e.callback?

section SameButReleases

variable {e' : Engine κ σ} (h : e.SameButReleases e')
include h

theorem SameButReleases.emitProgress_eq (total index : Nat) (command : String) (status : Status)
    (start : Value) (r : Run κ σ) :
    e'.emitProgress total index command status start r =
      e.emitProgress total index command status start r := by
  unfold emitProgress
  rw [h.callback, h.notify]

theorem SameButReleases.dispatch_eq (command : Command) (index : Nat) (r : Run κ σ) :
    e'.dispatch command index r = e.dispatch command index r := by
  unfold dispatch
  rw [h.registry, h.execute]

theorem SameButReleases.newWindow?_eq (a : Attempt κ σ) : e'.newWindow? a = e.newWindow? a := by
  unfold newWindow?
  rw [h.replacing]

theorem SameButReleases.carriesWindow_eq (command : Command) (result : CommandResult)
    (r : Run κ σ) : e'.carriesWindow command result r = e.carriesWindow command result r := by
  unfold carriesWindow
  rw [h.replacing]

end SameButReleases

/-- The releases of two engines do the same to every scene; they may answer differently. -/
structure SameButAnswers (e e' : Engine κ σ) : Prop extends SameButReleases e e' where
  releases : e'.config.releases = e.config.releases
  invoke : ∀ k owner name s,
    (e'.collaborators.invoke k owner name [] s).2 = (e.collaborators.invoke k owner name [] s).2

section SameButAnswers

variable {e' : Engine κ σ} (h : e.SameButAnswers e')
include h

theorem SameButAnswers.callRelease_eq (m : Option (Release κ)) (r : Run κ σ) :
    e'.callRelease m r = e.callRelease m r := by
  cases m with
  | none => rfl
  | some m =>
    have hcall := h.invoke m.routine m.owner m.name r.scene
    exact congrArg (fun s => (⟨s, r.trace ++ [m.event]⟩ : Run κ σ)) hcall

theorem SameButAnswers.record_eq (command : Command) (result : CommandResult) (r : Run κ σ) :
    e'.record command result r = e.record command result r := by
  have hreplaced (old new : Value) (r : Run κ σ) :
      e'.releaseReplaced old new r = e.releaseReplaced old new r := by
    unfold releaseReplaced
    rw [h.releases, release_eq, release_eq, h.callRelease_eq]
  unfold record replaceWindow
  simp only [h.carriesWindow_eq, hreplaced]

theorem SameButAnswers.attempt_eq (start : Value) (total index : Nat) (command : Command)
    (r : Run κ σ) :
    e'.attempt start total index command r = e.attempt start total index command r := by
  unfold attempt
  simp only [h.emitProgress_eq, h.dispatch_eq, h.record_eq]

/-- Whether releases answer, raise or have to be awaited makes no difference to a run. -/
theorem SameButAnswers.execute_eq (config : Config) (r : Run κ σ) :
    e'.execute config r = e.execute config r := by
  have hrun (start : Value) (total index : Nat) (commands : List Command) (r : Run κ σ) :
      e'.runFrom start total index commands r = e.runFrom start total index commands r := by
    induction commands generalizing index r with
    | nil => rfl
    | cons command rest ih =>
      simp only [runFrom_cons, h.attempt_eq, ih]
  simp only [execute_never, hrun]

end SameButAnswers

/-! ### Steps with other releases -/

/-- Two runs hold the same context, and show the same of session states. -/
structure SameSessions (r r' : Run κ σ) : Prop where
  context : r'.scene.context = r.scene.context
  shown : ∀ v, ∀ name ∈ ["request_result", "requestResult", "remapper"],
    r'.scene.store.field v name = r.scene.store.field v name
  settable : ∀ v, r'.scene.store.settable v = r.scene.store.settable v

/-- What releases do is nothing to the context and to what is shown of session states. -/
def SparesSessions (e : Engine κ σ) : Prop :=
  ∀ k owner name (r : Run κ σ),
    SameSessions r (r.callMethod e.collaborators k owner name []).2

theorem SparesSessions.callRelease (h : e.SparesSessions) (m : Option (Release κ)) (r : Run κ σ) :
    SameSessions r (e.callRelease m r) := by
  cases m with
  | none => exact ⟨rfl, fun _ _ _ => rfl, fun _ => rfl⟩
  | some m => exact h m.routine m.owner m.name r

theorem setField?_of_not_settable {μ : Type} {s : Store μ} {v : Value} (name : String)
    (value : Value) (h : s.settable v = false) : s.setField? v name value = none := by
  cases v with
  | handle k =>
    cases hcell : s.get? k with
    | none => simp only [Store.setField?, hcell]
    | some c =>
      obtain ⟨shape, fields, methods⟩ := c
      cases shape <;> simp [Store.settable, hcell] at h <;> simp only [Store.setField?, hcell]
  | _ => rfl

/-- The remapper after a window is put in place: its own one where its session state has one. -/
theorem remapper_adoptState_eq (w : Value) (r : Run κ σ) :
    (adoptState w r).scene.remapper =
      match r.scene.store.firstPresent w ["request_result", "requestResult"] with
      | none => r.scene.remapper
      | some v =>
        if (r.scene.store.field v "remapper").isNull then
          if r.scene.store.settable v then r.scene.remapper else .null
        else r.scene.store.field v "remapper" := by
  cases hstate : r.scene.store.firstPresent w ["request_result", "requestResult"] with
  | none => rw [adoptState_of_none w r hstate]
  | some v =>
    cases hsettable : r.scene.store.settable v with
    | true => simpa [hsettable] using remapper_adoptState w r hstate hsettable
    | false =>
      obtain ⟨hv, hpresent⟩ := sessionState_eq_of_firstPresent hstate
      subst hv
      -- What cannot be set keeps the remapper it has, or has none.
      have hstore : (adoptState w r).scene.store = r.scene.store := by
        simp only [adoptState, hpresent, Bool.false_eq_true, if_false,
          setField?_of_not_settable _ _ hsettable]
        split <;> rfl
      have hcontext := context_adoptState w r
      rw [hstate, Option.getD_some] at hcontext
      simp only [Scene.remapper, hstore, hcontext, hsettable, Bool.false_eq_true, if_false]
      cases hown : (r.scene.store.field (r.scene.store.sessionState w) "remapper").isNull with
      | true => rw [Value.isNull_iff.mp hown, if_pos rfl]
      | false => rfl

theorem SameSessions.adoptState {r' : Run κ σ} (h : SameSessions r r') (w : Value) :
    (Engine.adoptState w r').scene.context = (Engine.adoptState w r).scene.context ∧
      (Engine.adoptState w r').scene.remapper = (Engine.adoptState w r).scene.remapper := by
  have hstate : r'.scene.store.firstPresent w ["request_result", "requestResult"] =
      r.scene.store.firstPresent w ["request_result", "requestResult"] := by
    simp only [Store.firstPresent, List.findSome?, h.shown w "request_result" (by simp),
      h.shown w "requestResult" (by simp)]
  have hremapper : r'.scene.remapper = r.scene.remapper := by
    unfold Scene.remapper
    rw [h.context, h.shown _ "remapper" (by simp)]
  refine ⟨?_, ?_⟩
  · rw [context_adoptState, context_adoptState, hstate, h.context]
  · rw [remapper_adoptState_eq, remapper_adoptState_eq, hstate, hremapper]
    cases r.scene.store.firstPresent w ["request_result", "requestResult"] with
    | none => rfl
    | some v => simp only [h.shown v "remapper" (by simp), h.settable v]

/-- Whatever releases do that spare the sessions, and whether there are any, an attempt leaves the
same results, the same window and the same session state with the same remapper. -/
theorem SameButReleases.record_spared {e' : Engine κ σ} (h : e.SameButReleases e')
    (hspare : e.SparesSessions) (hspare' : e'.SparesSessions) (a : Attempt κ σ) :
    let recorded := e.record a.command a.result a.dispatched
    let recorded' := e'.record a.command a.result a.dispatched
    recorded'.scene.context = recorded.scene.context ∧
      recorded'.scene.remapper = recorded.scene.remapper := by
  intro recorded recorded'
  have hsame := h.newWindow?_eq a
  cases hwindow : e.newWindow? a with
  | none =>
    rw [hwindow] at hsame
    have hrecorded : recorded = a.noted := record_of_none hwindow
    have hrecorded' : recorded' = a.noted := record_of_none hsame
    rw [hrecorded, hrecorded']
    exact ⟨rfl, rfl⟩
  | some w =>
    rw [hwindow] at hsame
    have hfirst := hspare.callRelease (e.releaser? a) a.noted
    have hsecond := hspare'.callRelease (e'.releaser? a) a.noted
    rw [← freed_eq] at hfirst hsecond
    have hfreed : SameSessions ((e.freed a).withContext fun c => { c with window := w })
        ((e'.freed a).withContext fun c => { c with window := w }) :=
      { context := by
          have hcontext := hsecond.context.trans hfirst.context.symm
          exact congrArg (fun c : Context => { c with window := w }) hcontext
        shown := fun v name hname =>
          (hsecond.shown v name hname).trans (hfirst.shown v name hname).symm
        settable := fun v => (hsecond.settable v).trans (hfirst.settable v).symm }
    have hrecorded : recorded = Engine.adoptState w
        ((e.freed a).withContext fun c => { c with window := w }) := record_of_some hwindow
    have hrecorded' : recorded' = Engine.adoptState w
        ((e'.freed a).withContext fun c => { c with window := w }) := record_of_some hsame
    rw [hrecorded, hrecorded']
    exact hfreed.adoptState w

end Engine

end Playbook
