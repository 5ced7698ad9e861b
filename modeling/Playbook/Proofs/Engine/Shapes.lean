import Playbook.Proofs.Defaults
import Playbook.Proofs.Engine.Dispatch
import Playbook.Proofs.Reshaping

/-!
Runs over handles of other shapes. A run is compared with the run in which some handles that are
objects with attributes are mappings instead, and in which executors, callbacks and methods do the
same as ever. Every step of the engine takes the one to the other, as long as handles that change
their shape are used as handles only: not for whether they count as true, not in place of a result,
and not in settings, which are written out.
-/

namespace Playbook

variable {κ σ : Type}

/-- The scene with the chosen handles as mappings. -/
def Scene.reshaped (chosen : Handle → Bool) (s : Scene κ σ) : Scene κ σ :=
  { s with store := s.store.reshaped chosen }

def Run.reshaped (chosen : Handle → Bool) (r : Run κ σ) : Run κ σ :=
  { r with scene := r.scene.reshaped chosen }

namespace Scene

/-- What was answered, with the scene that was left behind in other shapes. -/
def mirrored {α : Type} (chosen : Handle → Bool) (made : α × Scene κ σ) : α × Scene κ σ :=
  (made.1, made.2.reshaped chosen)

/-- What is done to a scene is done in other shapes too, and leaves objects that show the same
fields in either shape. -/
structure ActsAlike {α : Type} (chosen : Handle → Bool) (act act' : Scene κ σ → α × Scene κ σ)
    (s : Scene κ σ) : Prop where
  store : (act s).2.store.Reshapable chosen
  same : act' (s.reshaped chosen) = mirrored chosen (act s)

end Scene

/-- The attempt with the chosen handles as mappings all through it. -/
def Attempt.reshaped (chosen : Handle → Bool) (a : Attempt κ σ) : Attempt κ σ :=
  { a with
    opened := a.opened.reshaped chosen
    announced := a.announced.reshaped chosen
    dispatched := a.dispatched.reshaped chosen
    recorded := a.recorded.reshaped chosen
    closed := a.closed.reshaped chosen }

namespace Engine

/-- The engine with other collaborators. -/
def withCollaborators (e : Engine κ σ) (c : Collaborators κ σ) : Engine κ σ :=
  { e with collaborators := c }

/-! ### Handles in use -/

section Use

variable (e : Engine κ σ) (c' : Collaborators κ σ) (chosen : Handle → Bool)

/-- The callback does in other shapes what it does in these when it is told how far a command has
come. -/
def TellsAlike (total index : Nat) (name : String) (status : Status) (start : Value)
    (r : Run κ σ) : Prop :=
  ∀ callback p, e.callback? = some callback →
    e.notice? total index name status start r = some p →
      r.scene.ActsAlike chosen (e.collaborators.notify callback p) (c'.notify callback p)

/-- The executor of a command does in other shapes what it does in these, and does not answer by a
handle that changes its shape in place of a result or a part of one. -/
structure CallsAlike (command : Command) (index : Nat) (r : Run κ σ) : Prop where
  act : ∀ executor, e.executor? command r.scene = some executor →
    let window := r.scene.context.window
    r.scene.ActsAlike chosen (e.collaborators.execute executor window command index)
      (c'.execute executor window command index)
  parts : ∀ executor v, e.executor? command r.scene = some executor →
    let made := e.collaborators.execute executor r.scene.context.window command index r.scene
    made.1 = .ok (.value v) →
      ∀ part ∈ v.recordParts made.2.store.lookup, made.2.store.changing? chosen part = none

/-- What comes after the dispatch of a command goes alike in either shape. The window that it
replaces, if it replaces one, is released alike and by a method that does the same; the report is
taken alike; and the flag to go on, if it is asked then, is no handle without fields that changes
its shape. -/
structure FollowsAlike (start : Value) (total : Nat) (a : Attempt κ σ) : Prop where
  window : ∀ old, e.released? a = some old → a.dispatched.scene.store.ReleasedAlike chosen old
  release : ∀ m, e.releaser? a = some m → a.noted.scene.ActsAlike chosen
    (e.collaborators.invoke m.routine m.owner m.name []) (c'.invoke m.routine m.owner m.name [])
  report : e.TellsAlike c' chosen total a.index a.command.name a.status start a.recorded
  flag : e.Makes start total a → a.result.success = false →
    ¬ a.closed.scene.store.Blank chosen a.closed.scene.context.continueOnError

/-- From the announcement of a command on, handles that change their shape are used as handles
only. -/
structure UsesHandles (start : Value) (total index : Nat) (command : Command) (r : Run κ σ) :
    Prop where
  announce : e.TellsAlike c' chosen total index command.name .running start r
  dispatch : ∀ announced,
    e.emitProgress total index command.name .running start r = (.ok (), announced) →
      e.CallsAlike c' chosen command index announced
  follow : ∀ a, e.Reaches start total a → a.index = index → a.command = command →
    a.opened = r → e.FollowsAlike c' chosen start total a

end Use

/-- A run through some commands comes to one of them, in the run that it is announced in. -/
inductive Comes (e : Engine κ σ) (start : Value) (total : Nat) :
    Nat → List Command → Run κ σ → Nat → Command → Run κ σ → Prop
  | now {index : Nat} {command : Command} {rest : List Command} {r : Run κ σ} :
      Comes e start total index (command :: rest) r index command r
  | later {a : Attempt κ σ} {rest : List Command} {place : Nat} {command : Command} {s : Run κ σ}
      (made : e.Makes start total a) (on : ¬ a.Halts)
      (more : Comes e start total (a.index + 1) rest a.closed place command s) :
      Comes e start total a.index (a.command :: rest) a.opened place command s

/-- A run that has come to a command is at the first one, or has attempted that and gone on. -/
theorem Comes.of_cons {e : Engine κ σ} {start : Value} {total index place : Nat}
    {first command : Command} {rest : List Command} {r s : Run κ σ}
    (h : e.Comes start total index (first :: rest) r place command s) :
    (place = index ∧ command = first ∧ s = r) ∨
      e.Comes start total (index + 1) rest (e.attempt start total index first r).2 place command
        s := by
  cases h with
  | now => exact .inl ⟨rfl, rfl, rfl⟩
  | later made _ more =>
    rw [made.attempt_eq]
    exact .inr more

theorem not_comes_nil {e : Engine κ σ} {start : Value} {total index place : Nat}
    {command : Command} {r s : Run κ σ} : ¬ e.Comes start total index [] r place command s := by
  intro h
  cases h

/-- What a step comes to, and what it comes to in other shapes. -/
structure Reflects {α : Type} (chosen : Handle → Bool) (done done' : α × Run κ σ) : Prop where
  store : done.2.scene.store.Reshapable chosen
  same : done' = (done.1, done.2.reshaped chosen)

/-- A step that is reflected fails in both shapes or in neither. -/
@[elab_as_elim]
theorem Reflects.elim {α ε : Type} {chosen : Handle → Bool}
    {motive : Except ε α × Run κ σ → Except ε α × Run κ σ → Prop}
    {done done' : Except ε α × Run κ σ} (h : Reflects chosen done done')
    (error : ∀ f r, r.scene.store.Reshapable chosen →
      motive (.error f, r) (.error f, r.reshaped chosen))
    (ok : ∀ a r, done = (.ok a, r) → r.scene.store.Reshapable chosen →
      motive (.ok a, r) (.ok a, r.reshaped chosen)) :
    motive done done' := by
  obtain ⟨hstore, rfl⟩ := h
  obtain ⟨outcome, r⟩ := done
  cases outcome with
  | error f => exact error f r hstore
  | ok a => exact ok a r rfl hstore

variable {chosen : Handle → Bool} {e : Engine κ σ} {c' : Collaborators κ σ} {start : Value}
  {total index : Nat} {command : Command} {r : Run κ σ} {s : Scene κ σ} {a : Attempt κ σ}

/-! ### Scenes -/

theorem failure_reshaped (hs : s.store.Reshapable chosen) (name : String) (index : Nat)
    (message : String) :
    failure name index message (s.reshaped chosen) = failure name index message s := by
  have hurl : s.context.currentUrl (s.store.reshaped chosen) = s.context.currentUrl s.store := by
    unfold Context.currentUrl
    rw [Store.windowUrl?_reshaped hs]
  unfold failure Scene.reshaped
  rw [hurl]

/-- What is recorded of an answer is the same in other shapes, unless a handle that changes its
shape is read as a result. -/
theorem answered_reshaped {made : Except Failure Outcome × Scene κ σ}
    (hstore : made.2.store.Reshapable chosen)
    (hparts : ∀ v, made.1 = .ok (.value v) →
      ∀ part ∈ v.recordParts made.2.store.lookup, made.2.store.changing? chosen part = none)
    (index : Nat) :
    answered command index (Scene.mirrored chosen made) = answered command index made := by
  obtain ⟨answer, s⟩ := made
  have hresult : resultOf command (s.reshaped chosen) answer = resultOf command s answer := by
    unfold resultOf
    cases answer with
    | error f => rfl
    | ok outcome =>
      cases outcome with
      | result found => rfl
      | value v =>
        have hcheck (now : Int) : CommandResult.check now (s.store.reshaped chosen).lookup v =
            CommandResult.check now s.store.lookup v :=
          CommandResult.check_congr fun part hpart =>
            Store.entries?_of_not_changing (hparts v rfl part hpart)
        cases v with
        | null => rfl
        | _ => simp only [Scene.reshaped, hcheck]
  unfold answered Scene.mirrored
  simp only [hresult, failure_reshaped hstore]

/-! ### Steps -/

theorem emitProgress_reflects (hr : r.scene.store.Reshapable chosen) {name : String}
    {status : Status} (htell : e.TellsAlike c' chosen total index name status start r) :
    Reflects chosen (e.emitProgress total index name status start r)
      ((e.withCollaborators c').emitProgress total index name status start
        (r.reshaped chosen)) := by
  have hcallback' : (e.withCollaborators c').callback? = e.callback? := rfl
  unfold emitProgress
  rw [hcallback']
  cases hcallback : e.callback? with
  | none => exact ⟨hr, rfl⟩
  | some callback =>
    have hclock : (r.reshaped chosen).scene.clock = r.scene.clock := rfl
    rw [hclock]
    cases helapsed : elapsedSince start r.scene.clock with
    | error f => exact ⟨hr, rfl⟩
    | ok elapsed =>
      let p : Progress := { total, current := index, command := name, status, elapsed }
      have hnotice : e.notice? total index name status start r = some p := by
        simp [notice?, hcallback, helapsed, Except.toOption, p]
      have hact := htell callback p hcallback hnotice
      have htold := congrArg Prod.snd hact.same
      exact ⟨hact.store,
        congrArg (fun scene => (Except.ok (), Run.mk scene (r.trace ++ [.progress p]))) htold⟩

theorem dispatch_reflects (hr : r.scene.store.Reshapable chosen)
    (hcall : e.CallsAlike c' chosen command index r) :
    Reflects chosen (e.dispatch command index r)
      ((e.withCollaborators c').dispatch command index (r.reshaped chosen)) := by
  have hregistry := e.get?_registry command r.scene
  cases hexecutor : (r.scene.registries.get e.registry).get? command.name with
  | none =>
    have hexecutor' : ((r.reshaped chosen).scene.registries.get
        (e.withCollaborators c').registry).get? command.name = none := hexecutor
    rw [dispatch_of_none hexecutor, dispatch_of_none hexecutor']
    exact ⟨hr, Prod.ext (failure_reshaped hr _ _ _) rfl⟩
  | some executor =>
    have hexecutor' : ((r.reshaped chosen).scene.registries.get
        (e.withCollaborators c').registry).get? command.name = some executor := hexecutor
    rw [dispatch_of_some hexecutor, dispatch_of_some hexecutor']
    have hcalled := hregistry.symm.trans hexecutor
    have hact := hcall.act executor hcalled
    have hparts := fun v => hcall.parts executor v hcalled
    let window := r.scene.context.window
    refine ⟨hact.store, ?_⟩
    change (answered command index (c'.execute executor window command index
        (r.scene.reshaped chosen)), Run.mk (c'.execute executor window command index
        (r.scene.reshaped chosen)).2 _) = _
    rw [hact.same, answered_reshaped hact.store hparts]
    rfl

/-! ### Windows -/

theorem newWindow?_reshaped (hs : a.dispatched.scene.store.Reshapable chosen) :
    (e.withCollaborators c').newWindow? (a.reshaped chosen) = e.newWindow? a := by
  have hdata := Store.newWindow_reshaped hs a.result.data
  have hfound : (a.dispatched.scene.store.reshaped chosen).firstPresent a.result.data
      ["newWindow", "new_window"] =
        a.dispatched.scene.store.firstPresent a.result.data ["newWindow", "new_window"] := by
    rw [← Store.present?_newWindow, ← Store.present?_newWindow, hdata]
  unfold newWindow?
  rw [← hfound]
  rfl

theorem releaser?_reshaped (hs : a.dispatched.scene.store.Reshapable chosen)
    (hwindow : ∀ old, e.released? a = some old →
      a.dispatched.scene.store.ReleasedAlike chosen old) :
    (e.withCollaborators c').releaser? (a.reshaped chosen) = e.releaser? a := by
  have hreleased : (e.withCollaborators c').released? (a.reshaped chosen) = e.released? a := by
    unfold released?
    rw [newWindow?_reshaped hs]
    rfl
  unfold releaser?
  rw [hreleased]
  cases hold : e.released? a with
  | none => rfl
  | some old => exact Store.releaser?_reshaped hs (hwindow old hold)

/-- A release changes in other shapes what it changes in these. -/
theorem freed_reshaped (hs : a.dispatched.scene.store.Reshapable chosen)
    (hwindow : ∀ old, e.released? a = some old →
      a.dispatched.scene.store.ReleasedAlike chosen old)
    (hrelease : ∀ m, e.releaser? a = some m → a.noted.scene.ActsAlike chosen
      (e.collaborators.invoke m.routine m.owner m.name [])
      (c'.invoke m.routine m.owner m.name [])) :
    (e.freed a).scene.store.Reshapable chosen ∧
      (e.withCollaborators c').freed (a.reshaped chosen) = (e.freed a).reshaped chosen := by
  rw [freed_eq, freed_eq, releaser?_reshaped hs hwindow]
  cases hm : e.releaser? a with
  | none => exact ⟨hs, rfl⟩
  | some m =>
    have hact := hrelease m hm
    have hinvoked := congrArg Prod.snd hact.same
    let events := a.noted.trace ++ [.method m.owner m.name []]
    exact ⟨hact.store, congrArg (fun scene => Run.mk scene events) hinvoked⟩

theorem adoptState_reshaped (hr : r.scene.store.Reshapable chosen) (w : Value) :
    (adoptState w r).scene.store.Reshapable chosen ∧
      adoptState w (r.reshaped chosen) = (adoptState w r).reshaped chosen := by
  have hstore : (r.reshaped chosen).scene.store = r.scene.store.reshaped chosen := rfl
  have hcontext : (r.reshaped chosen).scene.context = r.scene.context := rfl
  have hstate : (r.scene.store.reshaped chosen).sessionState w = r.scene.store.sessionState w :=
    Store.sessionState_reshaped hr w
  have hremapper (v : Value) : (r.scene.store.reshaped chosen).field v "remapper" =
      r.scene.store.field v "remapper" :=
    Store.field_reshaped hr (by decide) v
  simp only [adoptState, hstore, hcontext, hstate, hremapper, Store.setField?_reshaped]
  split
  · exact ⟨hr, rfl⟩
  · split
    · cases hset : r.scene.store.setField? (r.scene.store.sessionState w) "remapper"
        (r.scene.store.field r.scene.context.requestResult "remapper") with
      | none => exact ⟨hr, rfl⟩
      | some store => exact ⟨hr.setField? hset, rfl⟩
    · exact ⟨hr, rfl⟩

theorem record_reshaped (hs : a.dispatched.scene.store.Reshapable chosen)
    (hfollow : e.FollowsAlike c' chosen start total a) :
    (e.record a.command a.result a.dispatched).scene.store.Reshapable chosen ∧
      (e.withCollaborators c').record a.command a.result (a.dispatched.reshaped chosen) =
        (e.record a.command a.result a.dispatched).reshaped chosen := by
  have hwindow : (e.withCollaborators c').newWindow? (a.reshaped chosen) = e.newWindow? a :=
    newWindow?_reshaped hs
  change _ ∧ (e.withCollaborators c').record (a.reshaped chosen).command (a.reshaped chosen).result
    (a.reshaped chosen).dispatched = _
  cases hnew : e.newWindow? a with
  | none =>
    rw [record_of_none hnew, record_of_none (hwindow.trans hnew)]
    exact ⟨hs, rfl⟩
  | some w =>
    obtain ⟨hfreed, hsame⟩ := freed_reshaped hs hfollow.window hfollow.release
    rw [record_of_some hnew, record_of_some (hwindow.trans hnew), hsame]
    exact adoptState_reshaped (r := (e.freed a).withContext fun c => { c with window := w })
      hfreed w

/-! ### Runs -/

theorem attempt_reflects (hr : r.scene.store.Reshapable chosen)
    (huse : e.UsesHandles c' chosen start total index command r) :
    Reflects chosen (e.attempt start total index command r)
      ((e.withCollaborators c').attempt start total index command (r.reshaped chosen)) := by
  unfold attempt
  refine (emitProgress_reflects hr huse.announce).elim (fun _ _ hbroken => ⟨hbroken, rfl⟩)
    fun _ announced hannounce hannounced => ?_
  dsimp only
  refine (dispatch_reflects hannounced (huse.dispatch announced hannounce)).elim
    (fun _ _ hbroken => ⟨hbroken, rfl⟩) fun result dispatched hdispatch hdispatched => ?_
  let recorded := e.record command result dispatched
  let a : Attempt κ σ := ⟨index, command, r, announced, dispatched, result, recorded, recorded⟩
  have hfollow := huse.follow a ⟨hannounce, hdispatch, rfl⟩ rfl rfl rfl
  obtain ⟨hrecorded, hsame⟩ := record_reshaped (a := a) hdispatched hfollow
  have hrecord : (e.withCollaborators c').record command result (dispatched.reshaped chosen) =
      recorded.reshaped chosen := hsame
  dsimp only
  rw [hrecord]
  exact (emitProgress_reflects hrecorded hfollow.report).elim
    (fun _ _ hbroken => ⟨hbroken, rfl⟩) fun _ _ _ hclosed => ⟨hclosed, rfl⟩

/-- A run is the same in other shapes, if the handles that change their shape are used as handles
only at every command that it comes to. -/
theorem runFrom_reflects {commands : List Command} (hr : r.scene.store.Reshapable chosen)
    (huse : ∀ place command s, e.Comes start total index commands r place command s →
      e.UsesHandles c' chosen start total place command s) :
    Reflects chosen (e.runFrom start total index commands r)
      ((e.withCollaborators c').runFrom start total index commands (r.reshaped chosen)) := by
  induction commands generalizing index r with
  | nil => exact ⟨hr, rfl⟩
  | cons command rest ih =>
    rw [runFrom_cons, runFrom_cons]
    have hfirst := huse index command r .now
    refine (attempt_reflects hr hfirst).elim (fun _ _ hbroken => ⟨hbroken, rfl⟩)
      fun result closed hattempt hclosed => ?_
    obtain ⟨a, made, rfl, rfl, rfl, rfl, rfl⟩ := makes_of_attempt hattempt
    have hflag := (hfirst.follow a made.reaches rfl rfl rfl).flag made
    have hstops : stopsAfter a.result (a.closed.reshaped chosen) =
        stopsAfter a.result a.closed := by
      cases hsuccess : a.result.success with
      | true => simp [stopsAfter, hsuccess]
      | false =>
        exact congrArg (fun goesOn => !a.result.success && !goesOn)
          (Store.isTruthy_reshaped (hflag hsuccess))
    dsimp only
    rw [hstops]
    split
    · exact ⟨hclosed, rfl⟩
    · rename_i on
      exact ih hclosed fun place command s hcomes => huse place command s
        (.later made (fun hhalts => on (a.halts_iff_stopsAfter.mp hhalts)) hcomes)

/-- What else is asked of a run that is opened: its start time does not count as nothing in one of
the shapes only, and no handle that changes its shape is left in its settings. -/
structure OpensAlike (chosen : Handle → Bool) (config : Config) (s : Scene κ σ) : Prop where
  start : ¬ s.store.Blank chosen s.context.startTime
  settings : ∀ given ∈ config.settings.toOption,
    (s.store.snapshot true given.toDocument).holds (s.store.changes chosen) = false

theorem applyDefaults_reshaped {settings : Option Settings} (hs : s.store.Reshapable chosen)
    (hsettings : ∀ given ∈ settings,
      (s.store.snapshot true given.toDocument).holds (s.store.changes chosen) = false)
    (c : Context) :
    c.applyDefaults (s.store.reshaped chosen) settings = c.applyDefaults s.store settings := by
  have hdocument : ∀ given ∈ settings,
      given.documentIn (s.store.reshaped chosen) = given.documentIn s.store := by
    intro given hgiven
    have hsnapshot := Store.snapshot_reshaped (hsettings given hgiven)
    rw [Settings.snapshot_toDocument, Settings.snapshot_toDocument] at hsnapshot
    exact Value.map.inj hsnapshot
  have hwhole : Settings.document? settings (s.store.reshaped chosen) =
      Settings.document? settings s.store := by
    cases settings with
    | none => rfl
    | some given => exact congrArg Value.map (hdocument given rfl)
  have hentry (key : String) : Settings.documentEntry settings (s.store.reshaped chosen) key =
      Settings.documentEntry settings s.store key := by
    cases settings with
    | none => rfl
    | some given =>
      unfold Settings.documentEntry
      simp only [Option.elim_some, hdocument given rfl]
  have hbase : (c.applyDefaults (s.store.reshaped chosen) settings).baseUrl =
      (c.applyDefaults s.store settings).baseUrl := by
    change some (c.baseUrl.getD (Context.defaultBaseUrl _ _ _)) =
      some (c.baseUrl.getD (Context.defaultBaseUrl _ _ _))
    unfold Context.defaultBaseUrl
    rw [Store.windowUrl?_reshaped hs]
  rw [Context.applyDefaults_eq_with, hbase, Context.applyDefaults_settings,
    Context.applyDefaults_windowPolyfills, hwhole, hentry, ← Context.applyDefaults_settings,
    ← Context.applyDefaults_windowPolyfills]
  rfl

theorem startOf_reshaped (hstart : ¬ s.store.Blank chosen s.context.startTime) :
    startOf (s.reshaped chosen) = startOf s := by
  unfold startOf
  exact congrArg (fun isSet => if isSet = true then s.context.startTime else .float s.clock)
    (Store.isTruthy_reshaped hstart)

theorem prepare_reshaped {config : Config} (hr : r.scene.store.Reshapable chosen)
    (hopens : OpensAlike chosen config r.scene) :
    prepare config (r.reshaped chosen) = (prepare config r).reshaped chosen := by
  let begun : Context := { r.scene.context with startTime := startOf r.scene }
  unfold prepare
  change (r.reshaped chosen).withContext (fun c =>
    { c with startTime := startOf (r.scene.reshaped chosen) }.applyDefaults
      (r.scene.store.reshaped chosen) config.settings.toOption) = _
  rw [startOf_reshaped hopens.start]
  exact congrArg (fun c => (r.reshaped chosen).withContext fun _ => c)
    (applyDefaults_reshaped hr hopens.settings begun)

theorem execute_reflects {config : Config} (hr : r.scene.store.Reshapable chosen)
    (hopens : OpensAlike chosen config r.scene)
    (huse : ∀ place command s, e.Comes (startOf r.scene) config.commands.length 0 config.commands
      (prepare config r) place command s →
        e.UsesHandles c' chosen (startOf r.scene) config.commands.length place command s) :
    Reflects chosen (e.execute config r)
      ((e.withCollaborators c').execute config (r.reshaped chosen)) := by
  have hstart : startOf (r.reshaped chosen).scene = startOf r.scene :=
    startOf_reshaped hopens.start
  have hprepared : (prepare config r).scene.store.Reshapable chosen := hr
  rw [execute_never, execute_never, hstart, prepare_reshaped hr hopens]
  exact (runFrom_reflects hprepared huse).elim
    (fun _ _ hbroken => ⟨hbroken, rfl⟩) fun _ _ _ hclosed => ⟨hclosed, rfl⟩

/-- Mappings and objects with attributes are interchangeable as handles. Let some handles that are
objects be mappings instead, with the same fields and methods, and let executors, callbacks and
methods do in these shapes what they did before, wherever the run comes to call them. The run then
comes to the same account, with the same results, calls and releases, the same window, session state
and remapper and the same fields of all objects, and differs in the shapes alone. This is so as far
as the handles are used as handles only. None of them has a method named like a field that is read.
None is a window that is replaced and hides its own `close`, or is shown by it and hides its
`abort`. None of them without fields is shown to be aborted, or the flag to go on, or the start
time. And none is read as a result or left in the settings. -/
theorem shapes_are_interchangeable (e : Engine κ σ) (config : Config) (r : Run κ σ)
    (hr : r.scene.store.Reshapable chosen) (hopens : OpensAlike chosen config r.scene)
    (huse : ∀ place command s, e.Comes (startOf r.scene) config.commands.length 0 config.commands
      (prepare config r) place command s →
        e.UsesHandles c' chosen (startOf r.scene) config.commands.length place command s) :
    let ended := e.execute config r
    let ended' := (e.withCollaborators c').execute config (r.reshaped chosen)
    ended'.1 = ended.1 ∧ ended'.2 = ended.2.reshaped chosen ∧
      ended'.2.scene.context = ended.2.scene.context ∧ ended'.2.trace = ended.2.trace ∧
      ended'.2.scene.remapper = ended.2.scene.remapper ∧
      ∀ h, (ended'.2.scene.store.get? h).map Cell.fields =
        (ended.2.scene.store.get? h).map Cell.fields := by
  intro ended ended'
  obtain ⟨hended, hsame⟩ : Reflects chosen ended ended' := execute_reflects hr hopens huse
  have hrun : ended'.2 = ended.2.reshaped chosen := by rw [hsame]
  refine ⟨by rw [hsame], hrun, ?_, ?_, ?_, fun h => ?_⟩
  · rw [hrun]
    rfl
  · rw [hrun]
    rfl
  · rw [hrun]
    exact Store.field_reshaped hended (by decide) _
  · rw [hrun]
    change ((ended.2.scene.store.reshaped chosen).get? h).map Cell.fields = _
    rw [Store.get?_reshaped, Option.map_map]
    rfl

end Engine

/-- Who shows the way: some lead on to a second window, some lead back to the first one, and some
close one. -/
inductive Escort where
  | leads
  | returns
  | closes

namespace Escort

/-- The second window, in a shape of its own. -/
def second (shape : Shape) : Cell Escort :=
  ⟨shape, [(.text "url", .text "https://a.b/2"), (.text "requestResult", .handle (.named "new"))],
    [("close", .closes)]⟩

def arrival : Value :=
  .ofFields [("command", .text "navigate"), ("command_index", .int 0), ("success", .bool true),
    ("data", .ofFields [("newWindow", .handle (.named "second"))])]

def wayBack : CommandResult :=
  ⟨"click", 1, true, 0, none, .ofFields [("newWindow", .handle (.named "first"))]⟩

/-- Escorts who know the second window in some shape. It is there once they lead on to it. The way
back is only told, and nothing is changed for it. -/
def collaborators (shape : Shape) : Collaborators Escort Unit where
  isAsync _ := false
  execute escort _ _ _ s :=
    match escort with
    | .leads =>
      (.ok (.value arrival), { s with store := s.store.put (.named "second") (second shape) })
    | .returns => (.ok (.result wayBack), s)
    | .closes => (.ok (.value .null), s)
  notify _ _ s := (.ok (), s)
  invoke _ _ _ _ s := (.ok (), s)

def engine : Engine Escort Unit := { collaborators := collaborators .object }

/-- The windows and the new session become mappings; where the first window is, and the session
before, stay what they are. -/
def reshapes (h : Handle) : Bool :=
  [Handle.named "first", .named "second", .named "new"].contains h

/-- A cell that can change its shape and be shown to be aborted, or closed, or be asked whether it
counts. -/
def Fit (c : Cell Escort) : Prop :=
  c.Interchangeable ∧ c.fields.isEmpty = false ∧
    ∀ name ∈ ["abort", "close"], (c.fields.getText? name).isNone = true

instance (c : Cell Escort) : Decidable (Fit c) := inferInstanceAs (Decidable (_ ∧ _ ∧ _))

/-- All cells that change their shape are fit for it. -/
def AllFit (s : Store Escort) : Prop :=
  ∀ v c, s.changing? reshapes v = some c → Fit c

section AllFit

variable {s : Store Escort} (hs : AllFit s)

include hs

theorem AllFit.reshapable : s.Reshapable reshapes := fun v c hchange => (hs v c hchange).1

theorem AllFit.not_blank (v : Value) : ¬ s.Blank reshapes v := by
  rintro ⟨c, hchange, hnil⟩
  obtain ⟨_, hsome, _⟩ := hs v c hchange
  rw [hnil] at hsome
  cases hsome

theorem AllFit.not_hides (v : Value) {name : String} (hname : name ∈ ["abort", "close"]) :
    ¬ s.Hides reshapes v name := by
  rintro ⟨c, hchange, hfield⟩
  obtain ⟨_, _, hnone⟩ := hs v c hchange
  exact hfield (Option.isNone_iff_eq_none.mp (hnone name hname))

theorem AllFit.releasedAlike (window : Value) : s.ReleasedAlike reshapes window where
  shows := hs.not_blank _
  entries _ _ := hs.not_hides _ (by decide)
  window := hs.not_hides _ (by decide)

theorem AllFit.put_second : AllFit (s.put (.named "second") (second .object)) := by
  intro v c hchange
  rcases Store.changing?_put hchange with ⟨_, rfl, _⟩ | hold
  · exact (by decide : Fit (second .object))
  · exact hs v c hold

end AllFit

theorem allFit_of_cells {s : Store Escort}
    (h : ∀ cell ∈ s.cells, reshapes cell.1 = true → Fit cell.2) : AllFit s := by
  intro v c hchange
  obtain ⟨k, _, hchosen, hcell, _⟩ := Store.changing?_eq_some_iff.mp hchange
  obtain ⟨before, after, hcells, _⟩ := List.lookup_eq_some_iff.mp hcell
  exact h (k, c) (by simp [hcells]) hchosen

/-- An escort does the same in either shape. -/
theorem execute_actsAlike {s : Scene Escort Unit} (hs : AllFit s.store) (escort : Escort)
    (window : Value) (command : Command) (index : Nat) :
    AllFit (engine.collaborators.execute escort window command index s).2.store ∧
      s.ActsAlike reshapes (engine.collaborators.execute escort window command index)
        ((collaborators .mapping).execute escort window command index) := by
  cases escort with
  | leads =>
    have hput := Store.put_reshaped reshapes s.store (.named "second") (second .object)
    exact ⟨hs.put_second, hs.put_second.reshapable,
      congrArg (fun store => (Except.ok (Outcome.value arrival), { s with store })) hput⟩
  | returns | closes => exact ⟨hs, hs.reshapable, rfl⟩

theorem parts_not_changing {s : Scene Escort Unit} {escort : Escort} {window v : Value}
    {command : Command} {index : Nat}
    (h : (engine.collaborators.execute escort window command index s).1 = .ok (.value v))
    {t : Store Escort} {lookup : Lookup} {part : Value} (hpart : part ∈ v.recordParts lookup) :
    t.changing? reshapes part = none := by
  have hparts : part = arrival ∨ part = .null := by
    cases escort with
    | leads =>
      obtain rfl : arrival = v := by simpa [engine, collaborators] using h
      simpa [Value.recordParts, Value.entry, arrival, Value.ofFields, Value.entries?,
        Entries.getText?] using hpart
    | returns => cases h
    | closes =>
      obtain rfl : Value.null = v := by simpa [engine, collaborators] using h
      exact .inr (by simpa [Value.recordParts, Value.entry, Value.entries?] using hpart)
  rcases hparts with rfl | rfl <;> rfl

/-- Escorts use fit windows as windows only, at any command that succeeds. -/
theorem usesHandles {start : Value} {total index : Nat} {command : Command}
    {r : Run Escort Unit} (hs : AllFit r.scene.store)
    (hsucceeds : ((engine.attempt start total index command r).1.map
      CommandResult.success).toOption = some true) :
    engine.UsesHandles (collaborators .mapping) reshapes start total index command r where
  announce := nofun
  dispatch announced hannounce := by
    obtain rfl : r = announced := (Prod.mk.inj hannounce).2
    exact
      { act := fun escort _ => (execute_actsAlike hs escort _ command index).2
        parts := fun _ _ _ hvalue _ hpart => parts_not_changing hvalue hpart }
  follow a reached hindex hcommand hopened := by
    subst hindex hcommand hopened
    have hannounced : a.opened = a.announced := (Prod.mk.inj reached.announce).2
    have hdispatched : AllFit a.dispatched.scene.store := by
      have hdispatch := reached.dispatch
      rw [← hannounced] at hdispatch
      cases hexecutor : (a.opened.scene.registries.get engine.registry).get? a.command.name with
      | none =>
        rw [Engine.dispatch_of_none hexecutor] at hdispatch
        obtain ⟨_, hsame⟩ := Prod.mk.inj hdispatch
        exact hsame ▸ hs
      | some escort =>
        rw [Engine.dispatch_of_some hexecutor] at hdispatch
        obtain ⟨_, hmade⟩ := Prod.mk.inj hdispatch
        exact hmade ▸ (execute_actsAlike hs escort _ a.command a.index).1
    exact
      { window := fun old _ => hdispatched.releasedAlike old
        release := fun _ _ => ⟨hdispatched.reshapable, rfl⟩
        report := nofun
        flag := fun made hfailed => by
          rw [made.attempt_eq] at hsucceeds
          exact absurd (Option.some.inj hsucceeds) (by simp [hfailed]) }

/-- Two windows and two sessions, all of them objects, the second window yet to come. -/
def run : Run Escort Unit where
  scene :=
    { clock := 1000.0
      store :=
        { cells :=
            [(.named "first", ⟨.object, [(.text "location", .handle (.named "place"))],
                [("close", .closes)]⟩),
              (.named "place", ⟨.object, [(.text "href", .text "https://a.b/1")], []⟩),
              (.named "old", ⟨.object, [(.text "remapper", .text "kept")], []⟩),
              (.named "new", ⟨.object, [(.text "user", .text "someone")], []⟩)] }
      registries := ⟨⟨[("navigate", .leads), ("click", .returns)]⟩, []⟩
      context := { window := .handle (.named "first"), requestResult := .handle (.named "old") }
      memory := () }
  trace := []

def config : Config := .ofNames ["navigate", "click"]

end Escort

namespace Engine

/-- The second window is reported when it is created, and the first one is only reported. -/
theorem windows_change_their_shape :
    let e := Escort.engine
    let ended := e.execute Escort.config Escort.run
    let ended' := (e.withCollaborators (Escort.collaborators .mapping)).execute Escort.config
      (Escort.run.reshaped Escort.reshapes)
    ended'.2 = ended.2.reshaped Escort.reshapes ∧
      ended'.2.trace =
        [.call "navigate" 0 (.handle (.named "first")), .method (.named "first") "close" [],
          .call "click" 1 (.handle (.named "second")), .method (.named "second") "close" []] ∧
      ended'.2.scene.context.currentUrl ended'.2.scene.store = "https://a.b/1" ∧
      ended'.2.scene.remapper.text? = some "kept" ∧
      (ended'.2.scene.store.get? (.named "second")).map Cell.shape = some .mapping := by
  intro e ended ended'
  let start := startOf Escort.run.scene
  let opened := prepare Escort.config Escort.run
  have hopened : Escort.AllFit opened.scene.store :=
    Escort.allFit_of_cells (by decide +kernel)
  let first := e.attempt start 2 0 ⟨"navigate", .absent, []⟩ opened
  have hfirst : Escort.AllFit first.2.scene.store := Escort.allFit_of_cells (by decide +kernel)
  have huse : ∀ place command s, e.Comes start 2 0 Escort.config.commands opened place command s →
      e.UsesHandles (Escort.collaborators .mapping) Escort.reshapes start 2 place command s := by
    intro place command s hcomes
    rcases hcomes.of_cons with ⟨rfl, rfl, rfl⟩ | hcomes
    · exact Escort.usesHandles hopened (by decide +kernel)
    rcases hcomes.of_cons with ⟨rfl, rfl, rfl⟩ | hcomes
    · exact Escort.usesHandles hfirst (by decide +kernel)
    · exact absurd hcomes not_comes_nil
  have hopens : OpensAlike Escort.reshapes Escort.config Escort.run.scene :=
    ⟨hopened.not_blank _, nofun⟩
  obtain ⟨_, hrun, _, htrace, hremapper, _⟩ := shapes_are_interchangeable e Escort.config Escort.run
    hopened.reshapable hopens huse
  refine ⟨hrun, ?_, by decide +kernel, ?_, by decide +kernel⟩
  · rw [htrace]
    rfl
  · rw [hremapper]
    decide +kernel

end Engine

/-- Collaborators that only look on: an executor answers by the context it finds, and nothing is
changed by anybody. -/
def Collaborators.onlookers : Collaborators (Context → Outcome) Unit where
  isAsync _ := false
  execute answer _ _ _ s := (.ok (answer s.context), s)
  notify _ _ s := (.ok (), s)
  invoke _ _ _ _ s := (.ok (), s)

namespace Onlooker

def window : Value := .handle (.named "window")

def engine : Engine (Context → Outcome) Unit where
  collaborators := .onlookers

def second : Value := .handle (.named "second")

def reports (success : Bool) (data : Value) : Outcome :=
  .result ⟨"navigate", 0, success, 0, none, data⟩

/-- Opens another window, whatever the context. -/
def opens (w : Value) (_ : Context) : Outcome := reports true (.ofFields [("newWindow", w)])

/-- A run with an object for its window, an empty one beside it, and an executor that looks on. -/
def run (window : Cell (Context → Outcome)) (context : Context) (answer : Context → Outcome) :
    Run (Context → Outcome) Unit where
  scene :=
    { clock := 1000.0
      store :=
        { cells :=
            [(.named "window", window), (.named "second", ⟨.object, [], [("abort", answer)]⟩)] }
      registries := ⟨⟨[("navigate", answer)]⟩, []⟩
      context := { context with window := .handle (.named "window") }
      memory := () }
  trace := []

/-- The same with mappings in the place of both objects. -/
def reshaped (r : Run (Context → Outcome) Unit) : Run (Context → Outcome) Unit :=
  r.reshaped fun _ => true

/-- The other window is opened. A field of the first one has the name of the method that closes
it. -/
def hidesClose : Run (Context → Outcome) Unit :=
  run ⟨.object, [(.text "close", .int 5)], [("close", opens .null)]⟩ {} (opens second)

/-- The other window is opened, which the first one shows to be aborted. -/
def showsSecond : Run (Context → Outcome) Unit :=
  run ⟨.object, [(.text "happyDOM", second)], []⟩ {} (opens second)

/-- Failures end the run unless the window counts as true. -/
def goesOn : Run (Context → Outcome) Unit :=
  run ⟨.object, [], []⟩ { continueOnError := window } fun _ => reports false .null

/-- The run started when the window says. -/
def startsAt : Run (Context → Outcome) Unit :=
  run ⟨.object, [], []⟩ { startTime := window } (opens .null)

/-- The window is handed back in place of a result. -/
def handsBack : Run (Context → Outcome) Unit :=
  run
    ⟨.object, [(.text "command", .text "navigate"), (.text "command_index", .int 0),
      (.text "success", .bool true)], []⟩
    {} fun _ => .value window

/-- What the settings say about windows is reported. -/
def tellsSettings : Run (Context → Outcome) Unit :=
  run ⟨.object, [], []⟩ {} fun c => reports true c.windowPolyfills

def config : Config := .ofNames ["navigate", "navigate"]

def windowSettings : Settings where
  timeout := .absent
  waitForCompletion := .absent
  continueOnError := .absent
  baseUrl := .absent
  others := [("windowPolyfills", window)]

def windowConfig : Config := { config with settings := .given windowSettings }

def eventCount (config : Config) (r : Run (Context → Outcome) Unit) : Nat :=
  (engine.execute config r).2.trace.length

def results (config : Config) (r : Run (Context → Outcome) Unit) : List CommandResult :=
  (engine.execute config r).2.scene.context.results

end Onlooker

open Onlooker in
/-- A window that is an object and one that is a mapping are not interchangeable in all they can be
used for, though the collaborators do not mind which it is: when a field of it hides a method, when
it has no fields and is shown to be aborted, or the flag to go on, or the start time, when it is
handed back as a result, and when it is left in the settings. -/
theorem shape_shows_counterexample :
    (∀ chosen answer window command index s,
        engine.collaborators.execute answer window command index (s.reshaped chosen) =
          Scene.mirrored chosen (engine.collaborators.execute answer window command index s)) ∧
      (eventCount config hidesClose = 2 ∧ eventCount config (reshaped hidesClose) = 3) ∧
      (eventCount config showsSecond = 3 ∧ eventCount config (reshaped showsSecond) = 2) ∧
      (eventCount config goesOn = 2 ∧ eventCount config (reshaped goesOn) = 1) ∧
      ((engine.execute config startsAt).1.toOption.isSome = false ∧
        (engine.execute config (reshaped startsAt)).1.toOption.isSome = true) ∧
      ((results config handsBack).map CommandResult.success = [false] ∧
        (results config (reshaped handsBack)).map CommandResult.success = [true, true]) ∧
      ((results windowConfig tellsSettings).map CommandResult.data = [window, window] ∧
        (results windowConfig (reshaped tellsSettings)).map CommandResult.data =
          [.map [], .map []]) := by
  refine ⟨fun _ _ _ _ _ _ => rfl, ⟨?_, ?_⟩, ⟨?_, ?_⟩, ⟨?_, ?_⟩, ⟨?_, ?_⟩, ⟨?_, ?_⟩,
    rfl, rfl⟩ <;> decide +kernel

end Playbook
