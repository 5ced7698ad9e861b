import Playbook.Proofs.Config.Plain
import Playbook.Proofs.Engine.Releases
import Playbook.Proofs.Operation.Callers

/-!
Cookies and who protects them. Where the settings hold patterns, the cookie jar of the session is
looked for, and what it takes patterns by is called with them before the first command, once. All
other methods that an operation calls are those that release windows. A jar that counts as nothing
is passed over for what stands under the other name, and a setter that is a coroutine function is
not run at all, since nobody awaits it.
-/

namespace Playbook

variable {κ σ : Type}

/-! ### Plain data -/

mutual

theorem Value.mapHandles_of_isPlain (f : Handle → Value) : ∀ {v : Value}, v.isPlain = true →
    v.mapHandles f = v
  | .null, _ | .bool _, _ | .int _, _ | .float _, _ | .text _, _ => rfl
  | .list _, h => congrArg Value.list (mapHandlesAll_of_arePlain f h)
  | .map _, h => congrArg Value.map (mapHandlesEntries_of_holdPlain f h)
  | .frozenMap _, h => congrArg Value.frozenMap (mapHandlesEntries_of_holdPlain f h)

theorem mapHandlesAll_of_arePlain (f : Handle → Value) : ∀ {items : List Value},
    arePlain items = true → mapHandlesAll f items = items
  | [], _ => rfl
  | v :: rest, h => by
    obtain ⟨hhead, hrest⟩ := Bool.and_eq_true_iff.mp h
    rw [mapHandlesAll, Value.mapHandles_of_isPlain f hhead, mapHandlesAll_of_arePlain f hrest]

theorem mapHandlesEntries_of_holdPlain (f : Handle → Value) : ∀ {entries : List (Value × Value)},
    holdPlain entries = true → mapHandlesEntries f entries = entries
  | [], _ => rfl
  | (k, v) :: rest, h => by
    simp only [holdPlain, Bool.and_eq_true] at h
    rw [mapHandlesEntries, Value.mapHandles_of_isPlain f h.1.1, Value.mapHandles_of_isPlain f h.1.2,
      mapHandlesEntries_of_holdPlain f h.2]

end

namespace Store

variable {μ : Type} {s : Store μ} {v jar state : Value} {name : String} {k : μ}

/-- Plain data stands as it is, whatever the objects hold. -/
theorem snapshot_of_isPlain (s : Store μ) (labelled : Bool) (h : v.isPlain = true) :
    s.snapshot labelled v = v :=
  Value.mapHandles_of_isPlain _ h

/-! ### Jars and their setters -/

/-- A jar takes patterns by what it shows under one of two names. -/
theorem patternSetter?_eq_some {m : Member μ} (h : s.patternSetter? jar = some (name, m)) :
    name ∈ ["set_auto_protect_patterns", "setAutoProtectPatterns"] ∧
      s.attribute? jar name = some m := by
  have hfound {key : String}
      (h : ((s.presentAttribute? jar key).map fun m => (key, m)) = some (name, m)) :
      name = key ∧ s.attribute? jar name = some m := by
    obtain ⟨found, hpresent, hpair⟩ := Option.map_eq_some_iff.mp h
    obtain ⟨rfl, rfl⟩ := Prod.mk.inj hpair
    exact ⟨rfl, attribute?_of_presentAttribute? hpresent⟩
  unfold patternSetter? at h
  dsimp only at h
  split at h
  · rename_i first hfirst
    split at h
    · obtain ⟨rfl, hattribute⟩ := hfound (hfirst.trans h)
      exact ⟨by simp, hattribute⟩
    · obtain ⟨rfl, hattribute⟩ := hfound h
      exact ⟨by simp, hattribute⟩
  · obtain ⟨rfl, hattribute⟩ := hfound h
    exact ⟨by simp, hattribute⟩

/-- The first jar under either name is the one that is asked, if it counts as something. -/
theorem cookieJar_of_firstPresent
    (h : s.firstPresent state ["cookie_jar", "cookieJar"] = some jar)
    (htruthy : s.isTruthy jar = true) : s.cookieJar state = jar := by
  unfold cookieJar orElse
  cases hfirst : present? (s.field state "cookie_jar") with
  | some first =>
    obtain rfl : first = jar := by simpa [firstPresent, hfirst] using h
    obtain ⟨_, hfield⟩ := present?_eq_some_iff.mp hfirst
    rw [hfield, if_pos htruthy]
  | none =>
    have hsecond : present? (s.field state "cookieJar") = some jar := by
      simpa [firstPresent, hfirst] using h
    obtain ⟨_, hfield⟩ := present?_eq_some_iff.mp hsecond
    have hnull := Value.isNull_iff.mp (present?_eq_none_iff.mp hfirst)
    rw [hnull, hfield]
    rfl

end Store

/-- What takes the patterns of a configuration, and the name it has: what the cookie jar of the
session shows, if there are patterns at all. -/
def Scene.patternSetter? (s : Scene κ σ) (config : Config) : Option (String × Store.Member κ) :=
  if s.store.isTruthy (s.store.cookiePatterns config) then
    s.store.patternSetter? (s.store.cookieJar s.context.requestResult)
  else none

/-- A method of a cookie jar, and the patterns it is called with. -/
structure Handover (κ : Type) where
  jar : Handle
  name : String
  routine : κ
  patterns : Value

def Handover.event (m : Handover κ) : Event := .method m.jar m.name [m.patterns]

namespace Engine

/-! ### Protecting cookies -/

/-- The call that hands over the patterns of a configuration: that of a setter which is a method,
and is not left to somebody who would await it. -/
def handover? (e : Engine κ σ) (config : Config) (s : Scene κ σ) : Option (Handover κ) :=
  (s.patternSetter? config).bind fun found =>
    match s.store.cookieJar s.context.requestResult, found.2 with
    | .handle jar, .method routine =>
      if e.collaborators.isAsync routine then none
      else some ⟨jar, found.1, routine, s.store.cookiePatterns config⟩
    | _, _ => none

/-- The call of a method that is handed patterns. -/
def handOver (e : Engine κ σ) (m : Handover κ) (r : Run κ σ) : Except Failure Unit × Run κ σ :=
  r.callMethod e.collaborators m.routine m.jar m.name [m.patterns]

/-- Makes such a call, if there is one. -/
def callHandover (e : Engine κ σ) (m : Option (Handover κ)) (r : Run κ σ) : Run κ σ :=
  match m with
  | none => r
  | some m => (e.handOver m r).2

variable {e : Engine κ σ} {config : Config} {r : Run κ σ}

theorem protectCookies_of_none (h : r.scene.patternSetter? config = none) :
    e.protectCookies config r = (.ok (), r) := by
  unfold Scene.patternSetter? at h
  unfold protectCookies
  dsimp only
  split at h
  · rename_i htruthy
    simp only [htruthy, Bool.not_true, Bool.false_eq_true, if_false, h]
  · rename_i hfalsy
    simp only [Bool.not_eq_true] at hfalsy
    simp only [hfalsy, Bool.not_false, if_true]

/-- Patterns that were handed over are counted as well. -/
theorem protectCookies_of_some {name : String} {setter : Store.Member κ}
    (h : r.scene.patternSetter? config = some (name, setter)) :
    let patterns := r.scene.store.cookiePatterns config
    let asked := e.callSetter (r.scene.store.cookieJar r.scene.context.requestResult) name setter
      patterns r
    e.protectCookies config r =
      (asked.1.bind fun _ =>
        if patterns.isCounted asked.2.scene.store.lookup then .ok ()
        else .error .patternsNotCounted, asked.2) := by
  intro patterns asked
  unfold Scene.patternSetter? at h
  split at h
  · rename_i htruthy
    unfold protectCookies
    simp only [htruthy, Bool.not_true, Bool.false_eq_true, if_false, h]
    cases hasked : asked with
    | mk outcome after =>
      have hcall : e.callSetter (r.scene.store.cookieJar r.scene.context.requestResult) name
          setter (r.scene.store.cookiePatterns config) r = (outcome, after) := hasked
      rw [hcall]
      cases outcome with
      | error err => rfl
      | ok _ =>
        dsimp only [Except.bind]
        split <;> rfl
  · cases h

/-- The setter that is called is the one that was found, on the jar that it was found on. -/
theorem handover?_eq_some_iff {s : Scene κ σ} {m : Handover κ} :
    e.handover? config s = some m ↔
      s.patternSetter? config = some (m.name, .method m.routine) ∧
        s.store.cookieJar s.context.requestResult = .handle m.jar ∧
        m.patterns = s.store.cookiePatterns config ∧
        e.collaborators.isAsync m.routine = false := by
  constructor
  · intro h
    obtain ⟨⟨name, setter⟩, hfound, hm⟩ := Option.bind_eq_some_iff.mp h
    dsimp only at hm
    split at hm
    · rename_i jar routine hjar
      split at hm
      · cases hm
      · rename_i hasync
        obtain rfl := Option.some.inj hm
        exact ⟨hfound, hjar, rfl, by simpa using hasync⟩
    · cases hm
  · rintro ⟨hfound, hjar, hpatterns, hsync⟩
    simp only [handover?, hfound, Option.bind_some, hjar, hsync, Bool.false_eq_true, if_false,
      ← hpatterns]

theorem protectCookies_of_handover {m : Handover κ} (h : e.handover? config r.scene = some m) :
    let made := e.handOver m r
    e.protectCookies config r =
      ((made.1.mapError OperationError.refused).bind fun _ =>
        if m.patterns.isCounted made.2.scene.store.lookup then .ok ()
        else .error .patternsNotCounted, made.2) := by
  intro made
  obtain ⟨hfound, hjar, hpatterns, hsync⟩ := handover?_eq_some_iff.mp h
  have hcall : e.callSetter (.handle m.jar) m.name (.method m.routine) m.patterns r =
      (made.1.mapError OperationError.refused, made.2) := by
    unfold callSetter
    simp only [hsync, Bool.false_eq_true, if_false]
    cases hmade : made with
    | mk outcome after =>
      have hcalled : r.callMethod e.collaborators m.routine m.jar m.name [m.patterns] =
          (outcome, after) := hmade
      rw [hcalled]
      cases outcome <;> rfl
  have hprotect := protectCookies_of_some (e := e) hfound
  simp only [hjar, ← hpatterns, hcall] at hprotect
  exact hprotect

/-- Protecting cookies makes that one call and does nothing else. -/
theorem run_protectCookies (e : Engine κ σ) (config : Config) (r : Run κ σ) :
    (e.protectCookies config r).2 = e.callHandover (e.handover? config r.scene) r := by
  cases hhandover : e.handover? config r.scene with
  | some m =>
    rw [protectCookies_of_handover hhandover]
    rfl
  | none =>
    cases hfound : r.scene.patternSetter? config with
    | none =>
      rw [protectCookies_of_none hfound]
      rfl
    | some found =>
      obtain ⟨name, setter⟩ := found
      rw [protectCookies_of_some hfound]
      unfold handover? at hhandover
      rw [hfound, Option.bind_some] at hhandover
      dsimp only at hhandover ⊢
      -- Nobody is called: the setter is no method, or it is one that waits to be awaited.
      unfold callSetter
      split at hhandover
      · split at hhandover
        · rename_i hjar hasync
          simp only [hjar, hasync, if_true, callHandover]
        · cases hhandover
      · rename_i hother
        split
        · rename_i hjar
          exact absurd rfl (hother _ _ hjar)
        · rfl
        · rfl

theorem trace_callHandover (e : Engine κ σ) (m : Option (Handover κ)) (r : Run κ σ) :
    (e.callHandover m r).trace = r.trace ++ (m.map Handover.event).toList := by
  cases m with
  | none => simp [callHandover]
  | some m => simp [callHandover, handOver, Handover.event]

end Engine

/-! ### What an operation calls -/

/-- The call of a method that releases a window: it is handed nothing. -/
inductive Event.IsRelease : Event → Prop
  | abort (owner : Handle) : IsRelease (.method owner "abort" [])
  | close (owner : Handle) : IsRelease (.method owner "close" [])

/-- What is added to a run behind what has happened: no methods are called but those that release
windows. -/
structure Run.ReleasesOnly (r r' : Run κ σ) (later : List Event) : Prop where
  trace : r'.trace = r.trace ++ later
  releases : ∀ event ∈ later, event.isMethod = true → event.IsRelease

namespace Engine

variable {e : Engine κ σ} {loader : Loader} {source : Source} {input : ContextInput}
  {config : Config} {context : Context} {r : Run κ σ}

theorem released_isRelease {a : Attempt κ σ} {event : Event} (h : event ∈ e.released a) :
    event.IsRelease := by
  unfold released at h
  cases hm : e.releaser? a with
  | none => simp [hm] at h
  | some m =>
    obtain ⟨old, _, hreleases⟩ := releases_of_releaser? hm
    obtain rfl : event = m.event := by simpa [hm] using h
    unfold Release.event
    rcases hreleases.method with ⟨hname, _⟩ | ⟨hname, _, _⟩
    · rw [hname]
      exact .abort m.owner
    · rw [hname]
      exact .close m.owner

/-- The run of a configuration calls no methods but those that release windows. -/
theorem execute_releasesOnly (e : Engine κ σ) (config : Config) (r : Run κ σ) :
    ∃ later, r.ReleasesOnly (e.execute config r).2 later := by
  obtain ⟨outcome, hplays, _⟩ := plays_attempts e config r
  obtain ⟨later, hlater⟩ := (Goes.trace_extends hplays).1
  obtain ⟨broken, hmethods, _, hbroken⟩ := Goes.methods hplays
  have htrace : (e.execute config r).2.trace = r.trace ++ later := hlater.symm
  refine ⟨later, htrace, fun event hevent hmethod => ?_⟩
  -- Of what is added the methods are those of the attempts, the one that was broken off included.
  have hadded : later.filter Event.isMethod =
      (e.attempts config r).flatMap e.released ++ broken := by
    unfold Run.methods at hmethods
    rw [← hlater, List.filter_append, List.append_assoc] at hmethods
    exact List.append_cancel_left hmethods
  have hfiltered : event ∈ later.filter Event.isMethod := List.mem_filter.mpr ⟨hevent, hmethod⟩
  rw [hadded] at hfiltered
  rcases List.mem_append.mp hfiltered with hrow | hlast
  · obtain ⟨a, _, ha⟩ := List.mem_flatMap.mp hrow
    exact released_isRelease ha
  · rcases hbroken with rfl | ⟨a, _, rfl⟩
    · cases hlast
    · exact released_isRelease hlast

theorem executeOperation_eq (hload : loader.loadOperation r.scene.store.lookup source = .ok config)
    (hbuild : buildContext r.scene.store input = .ok context) :
    e.executeOperation loader input source r =
      e.runInContext config (r.withContext fun _ => context) := by
  unfold executeOperation runConfig
  simp only [hload, hbuild]

section Amid

variable {hz : Hazards κ σ}

theorem runInContext_of_unshielded {err : OperationError}
    (hfree : hz.unprotected? config r.scene = none)
    (h : (e.protectCookies config r).1 = .error err) :
    e.runInContext config r hz = (.error err, (e.protectCookies config r).2) := by
  unfold runInContext
  rw [hfree]
  cases hprotect : e.protectCookies config r with
  | mk outcome guarded =>
    obtain rfl : outcome = .error err := by simpa [hprotect] using h
    rfl

theorem runInContext_of_shielded (hfree : hz.unprotected? config r.scene = none)
    (h : (e.protectCookies config r).1 = .ok ()) :
    let ended := e.execute config (e.opening config r) hz
    e.runInContext config r hz = (ended.1.mapError .ofEscape, ended.2) := by
  intro ended
  unfold runInContext
  rw [hfree]
  cases hprotect : e.protectCookies config r with
  | mk outcome guarded =>
    obtain rfl : outcome = .ok () := by simpa [hprotect] using h
    have hopening :
        guarded.withContext (fun c => { c with startTime := .float guarded.scene.clock }) =
          e.opening config r := by
      unfold opening
      rw [hprotect]
    dsimp only
    rw [hopening]
    cases hended : e.execute config (e.opening config r) hz with
    | mk outcome last => cases outcome <;> simp only [ended, hended, Except.mapError]

end Amid

theorem runInContext_of_error {err : OperationError}
    (h : (e.protectCookies config r).1 = .error err) :
    e.runInContext config r = (.error err, (e.protectCookies config r).2) :=
  runInContext_of_unshielded (unprotected?_never config r.scene) h

theorem runInContext_of_ok (h : (e.protectCookies config r).1 = .ok ()) :
    let ended := e.execute config (e.opening config r)
    e.runInContext config r = (ended.1.mapError .ofEscape, ended.2) :=
  runInContext_of_shielded (unprotected?_never config r.scene) h

/-- What is added to a run in which cookies are protected: the call that hands the patterns over, if
there is one, before everything else, and releases of windows as the only other methods. -/
theorem runInContext_releasesOnly (e : Engine κ σ) (config : Config) (r : Run κ σ) :
    ∃ later,
      (e.callHandover (e.handover? config r.scene) r).ReleasesOnly (e.runInContext config r).2
        later := by
  rw [← run_protectCookies]
  cases hprotect : (e.protectCookies config r).1 with
  | error err =>
    rw [runInContext_of_error hprotect]
    exact ⟨[], (List.append_nil _).symm, nofun⟩
  | ok _ =>
    obtain ⟨later, htrace, hreleases⟩ := e.execute_releasesOnly config (e.opening config r)
    rw [runInContext_of_ok hprotect]
    exact ⟨later, htrace, hreleases⟩

/-- Patterns are handed over, by one call that comes before all others. -/
structure HandsOver (e : Engine κ σ) (config : Config) (m : Handover κ) (r : Run κ σ)
    (ended : Except OperationError RunResult × Run κ σ) : Prop where
  /-- Nothing happens before the call, and no method is called after it but to release a window. -/
  first : ∃ later, ended.2.trace = r.trace ++ m.event :: later ∧
    ∀ event ∈ later, event.isMethod = true → event.IsRelease
  /-- A jar that refuses the patterns ends the operation. -/
  refused : ∀ f, (e.handOver m r).1 = .error f → ended = (.error (.refused f), (e.handOver m r).2)
  /-- Otherwise the commands are run, in the scene that the setter has left. -/
  taken : (e.handOver m r).1 = .ok () →
    let made := (e.handOver m r).2
    let opened := made.withContext fun c => { c with startTime := .float made.scene.clock }
    ended = ((e.execute config opened).1.mapError .ofEscape, (e.execute config opened).2)

theorem handsOver_of_handover {m : Handover κ} (h : e.handover? config r.scene = some m)
    (hcounted : ∀ lookup, m.patterns.isCounted lookup = true) :
    e.HandsOver config m r (e.runInContext config r) := by
  have hprotect := protectCookies_of_handover h
  have hrun := e.run_protectCookies config r
  rw [h] at hrun
  simp only [hcounted, if_true] at hprotect
  constructor
  · obtain ⟨later, htrace, hreleases⟩ := e.runInContext_releasesOnly config r
    refine ⟨later, ?_, hreleases⟩
    rw [htrace, trace_callHandover, h]
    simp
  · intro f hf
    have herror : (e.protectCookies config r).1 = .error (.refused f) := by
      rw [hprotect, hf]
      rfl
    rw [runInContext_of_error herror, hrun]
    rfl
  · intro hok
    have hdone : (e.protectCookies config r).1 = .ok () := by
      rw [hprotect, hok]
      rfl
    have hopening := runInContext_of_ok hdone
    unfold opening at hopening
    rw [hrun] at hopening
    exact hopening

/-- A list of patterns is handed over to the setter of a jar that counts as something. -/
theorem handover?_of_list {items : List Value} {jar : Handle} {name : String} {routine : κ}
    (hpatterns : (config.settings.toOption.bind fun settings =>
      settings.get? "autoProtectCookies") = some (.list items)) (hsome : items ≠ [])
    (hjar : r.scene.store.firstPresent r.scene.context.requestResult
      ["cookie_jar", "cookieJar"] = some (.handle jar))
    (htruthy : r.scene.store.isTruthy (.handle jar) = true)
    (hsetter : r.scene.store.patternSetter? (.handle jar) = some (name, .method routine))
    (hsync : e.collaborators.isAsync routine = false) :
    e.handover? config r.scene =
      some ⟨jar, name, routine, r.scene.store.snapshot true (.list items)⟩ := by
  have hheld : r.scene.store.cookiePatterns config = r.scene.store.snapshot true (.list items) := by
    unfold Store.cookiePatterns
    rw [hpatterns]
  have hfull : r.scene.store.isTruthy (r.scene.store.snapshot true (.list items)) = true := by
    cases items with
    | nil => exact absurd rfl hsome
    | cons item rest => rfl
  have hasked := Store.cookieJar_of_firstPresent hjar htruthy
  have hfound : r.scene.patternSetter? config = some (name, .method routine) := by
    simp only [Scene.patternSetter?, hheld, hfull, if_true, hasked, hsetter]
  exact handover?_eq_some_iff.mpr ⟨hfound, hasked, hheld.symm, hsync⟩

/-- Why patterns reach nobody: there are none, or no jar counts as something, or what takes them is
a coroutine function. -/
inductive Withholds (e : Engine κ σ) (config : Config) (s : Scene κ σ) : Prop
  | noPatterns (h : s.store.isTruthy (s.store.cookiePatterns config) = false)
  | noJar (first : s.store.isTruthy (s.store.field s.context.requestResult "cookie_jar") = false)
      (second : s.store.field s.context.requestResult "cookieJar" = .null)
  | unawaited {name : String} {routine : κ}
      (found : s.patternSetter? config = some (name, .method routine))
      (async : e.collaborators.isAsync routine = true)

theorem Withholds.handover?_eq_none {s : Scene κ σ} (h : e.Withholds config s) :
    e.handover? config s = none := by
  cases h with
  | noPatterns hpatterns =>
    have hnone : s.patternSetter? config = none := by
      unfold Scene.patternSetter?
      rw [if_neg (by simp [hpatterns])]
    simp only [handover?, hnone, Option.bind_none]
  | noJar first second =>
    have hjar : s.store.cookieJar s.context.requestResult = .null := by
      unfold Store.cookieJar Store.orElse
      rw [first, second]
      rfl
    unfold handover?
    cases s.patternSetter? config with
    | none => rfl
    | some found => simp only [hjar, Option.bind_some]
  | unawaited found async =>
    unfold handover?
    rw [found, Option.bind_some]
    dsimp only
    split
    · rename_i hroutine
      obtain rfl := Store.Member.method.inj hroutine
      rw [if_pos async]
    · rfl

/-- Patterns of cookies are handed over before the first command. Where the settings hold a list of
them and the session has a jar that counts as something, whose setter is no coroutine function, an
operation calls the setter once, with that list, before it does anything else, and calls no method
afterwards but to release windows. The run goes on in the scene that the setter leaves, or not at
all when the setter raises. Where there are no patterns, no jar is called; neither is one that
counts as nothing, and a setter that is a coroutine function does not run. -/
theorem patterns_are_handed_over_first (e : Engine κ σ)
    (hload : loader.loadOperation r.scene.store.lookup source = .ok config)
    (hbuild : buildContext r.scene.store input = .ok context) :
    let store := r.scene.store
    let opened := r.withContext fun _ => context
    let ended := e.executeOperation loader input source r
    (∀ (items : List Value) (jar : Handle) (name : String) (routine : κ),
      (config.settings.toOption.bind fun settings => settings.get? "autoProtectCookies") =
        some (.list items) → items ≠ [] →
      store.firstPresent context.requestResult ["cookie_jar", "cookieJar"] = some (.handle jar) →
      store.isTruthy (.handle jar) = true →
      store.patternSetter? (.handle jar) = some (name, .method routine) →
      e.collaborators.isAsync routine = false →
        e.HandsOver config ⟨jar, name, routine, store.snapshot true (.list items)⟩ opened ended ∧
          (arePlain items = true → store.snapshot true (.list items) = .list items)) ∧
      (e.Withholds config opened.scene → ∃ later, opened.ReleasesOnly ended.2 later) := by
  intro store opened ended
  have hended : ended = e.runInContext config opened := executeOperation_eq hload hbuild
  rw [hended]
  refine ⟨?_, ?_⟩
  · intro items jar name routine hpatterns hsome hjar htruthy hsetter hsync
    have hhandover : e.handover? config opened.scene =
        some ⟨jar, name, routine, store.snapshot true (.list items)⟩ :=
      handover?_of_list hpatterns hsome hjar htruthy hsetter hsync
    exact ⟨handsOver_of_handover hhandover fun _ => rfl, fun hplain =>
      store.snapshot_of_isPlain true (v := .list items) hplain⟩
  · intro hwithholds
    obtain ⟨later, hlater⟩ := e.runInContext_releasesOnly config opened
    rw [hwithholds.handover?_eq_none] at hlater
    exact ⟨later, hlater⟩

/-! ### Sessions with one jar -/

/-- A configuration with one command and one setting. -/
def guardedConfig (patterns : Value) : Config :=
  { Config.ofNames ["read"] with
    settings := .given
      { timeout := .absent, waitForCompletion := .absent, continueOnError := .absent
        baseUrl := .absent, others := [("autoProtectCookies", patterns)] } }

/-- A cookie jar of some shape that holds nothing so far and takes patterns by a routine. -/
def emptyJar (shape : Shape) (setter : Part) : Store Part :=
  { cells := [(.named "jar", ⟨shape, [], [("set_auto_protect_patterns", setter)]⟩)] }

def guardedRun (shape : Shape) (setter : Part) : Run Part Unit :=
  Part.stage [("read", Part.reporting true [])] {} (emptyJar shape setter)

/-- A session that shows the jar. -/
def guardedSession : Value := .ofFields [("cookie_jar", .handle (.named "jar"))]

def guardedInput : ContextInput := .value (.ofFields [("request_result", guardedSession)])

/-- What a check makes of what the caller gives. -/
def guardedObject : ContextObject where
  content := { requestResult := guardedSession }
  assigned := ["request_result"]

theorem buildContext_guardedInput (store : Store Part) :
    buildContext store guardedInput = .ok { requestResult := guardedSession } := by
  have hchecked : ContextObject.check 0 store.lookup
      (.ofFields [("request_result", guardedSession)]) = .pass guardedObject := rfl
  exact (buildContext_of_checked hchecked).1

theorem patterns_reach_jar :
    let setter := Part.reporting true []
    let patterns := Value.list [.text "session*"]
    let r := guardedRun .object setter
    let ended := Part.engine.executeOperation ⟨[], .empty⟩ guardedInput
      (.value (guardedConfig patterns).toDocument) r
    ended.1.toOption.map (fun account => account.results.map CommandResult.success) =
        some [true] ∧
      Part.engine.HandsOver (guardedConfig patterns)
        ⟨.named "jar", "set_auto_protect_patterns", setter, patterns⟩
        (r.withContext fun _ => { requestResult := guardedSession }) ended := by
  intro setter patterns r ended
  have hload : Loader.loadOperation ⟨[], .empty⟩ r.scene.store.lookup
      (.value (guardedConfig patterns).toDocument) = .ok (guardedConfig patterns) := rfl
  have hbuild := buildContext_guardedInput r.scene.store
  obtain ⟨hhands, _⟩ := patterns_are_handed_over_first Part.engine hload hbuild
  obtain ⟨hfirst, _⟩ := hhands [.text "session*"] (.named "jar") "set_auto_protect_patterns" setter
    rfl (by simp) rfl rfl rfl rfl
  exact ⟨by decide +kernel, hfirst⟩

/-- Patterns do not reach a jar that is an empty mapping, nor one whose setter is a coroutine
function: nobody is called at all. -/
theorem patterns_withheld_counterexample :
    let setter := Part.reporting true []
    let patterns := Value.list [.text "session*"]
    let source := Source.value (guardedConfig patterns).toDocument
    let asyncSetters : Engine Part Unit :=
      { collaborators := { Part.collaborators with isAsync := fun _ => true } }
    (∀ shape ∈ [Shape.mapping, .object],
      (emptyJar shape setter).firstPresent guardedSession ["cookie_jar", "cookieJar"] =
          some (.handle (.named "jar")) ∧
        (emptyJar shape setter).patternSetter? (.handle (.named "jar")) =
          some ("set_auto_protect_patterns", .method setter)) ∧
      (Part.engine.executeOperation ⟨[], .empty⟩ guardedInput source
        (guardedRun .mapping setter)).2.methods = [] ∧
      (asyncSetters.executeOperation ⟨[], .empty⟩ guardedInput source
        (guardedRun .object setter)).2.methods = [] := by
  intro setter patterns source asyncSetters
  refine ⟨?_, List.isEmpty_iff.mp (by decide +kernel), List.isEmpty_iff.mp (by decide +kernel)⟩
  intro shape hshape
  simp only [List.mem_cons, List.not_mem_nil, or_false] at hshape
  rcases hshape with rfl | rfl <;> exact ⟨rfl, rfl⟩

end Engine

end Playbook
