import Playbook.Proofs.Engine.Accounting
import Playbook.Proofs.Engine.Releases
import Playbook.Proofs.Hiding
import Playbook.Proofs.Outcome.Times

/-!
Runs that cannot be told apart. Two scenes are alike for those who see neither the clock nor the
times in results, do not read some names and look at a part of the memory only. Where executors and
callbacks go by what is alike, and releases change nothing that they see, alike scenes stay alike
through a whole run, whatever else the releases do in the one run and in the other.
-/

namespace Playbook

variable {κ σ β : Type}

/-- The context without the times in its results. -/
def Context.timeless (c : Context) : Context :=
  { c with results := c.results.map CommandResult.timeless }

def Outcome.timeless : Outcome → Outcome
  | .result r => .result r.timeless
  | .value v => .value v

def Progress.timeless (p : Progress) : Progress := { p with elapsed := 0 }

/-- Two scenes differ in nothing but clock, times, hidden names and what is not looked at. -/
structure Scene.Alike (hidden : String → Bool) (look : σ → β) (s t : Scene κ σ) : Prop where
  store : t.store.seen hidden = s.store.seen hidden
  registries : t.registries = s.registries
  context : t.context.timeless = s.context.timeless
  memory : look t.memory = look s.memory

namespace Scene.Alike

variable {hidden : String → Bool} {look : σ → β} {s t u : Scene κ σ} {name : String}

theorem refl (s : Scene κ σ) : Alike hidden look s s := ⟨rfl, rfl, rfl, rfl⟩

theorem symm (h : Alike hidden look s t) : Alike hidden look t s :=
  ⟨h.store.symm, h.registries.symm, h.context.symm, h.memory.symm⟩

theorem trans (h : Alike hidden look s t) (h' : Alike hidden look t u) : Alike hidden look s u :=
  ⟨h'.store.trans h.store, h'.registries.trans h.registries, h'.context.trans h.context,
    h'.memory.trans h.memory⟩

theorem field (h : Alike hidden look s t) (hname : hidden name = false) (v : Value) :
    t.store.field v name = s.store.field v name := by
  rw [← Store.field_seen hname t.store, h.store, Store.field_seen hname]

theorem lookup (h : Alike hidden look s t) : t.store.lookup = s.store.lookup := by
  rw [← Store.lookup_seen hidden t.store, h.store, Store.lookup_seen]

theorem isTruthy (h : Alike hidden look s t) (v : Value) :
    t.store.isTruthy v = s.store.isTruthy v := by
  rw [← Store.isTruthy_seen hidden t.store, h.store, Store.isTruthy_seen]

theorem window (h : Alike hidden look s t) : t.context.window = s.context.window := by
  have hwindow := congrArg Context.window h.context
  exact hwindow

theorem requestResult (h : Alike hidden look s t) :
    t.context.requestResult = s.context.requestResult := by
  have hstate := congrArg Context.requestResult h.context
  exact hstate

theorem withContext (h : Alike hidden look s t) {c d : Context} (hcd : d.timeless = c.timeless) :
    Alike hidden look { s with context := c } { t with context := d } :=
  ⟨h.store, h.registries, hcd, h.memory⟩

end Scene.Alike

namespace Engine

/-- The names that the engine itself reads. -/
def readNames : List String :=
  ["newWindow", "new_window", "request_result", "requestResult", "remapper", "location", "href",
    "url"]

/-- Executors and callbacks go by what is alike, and so does the engine. -/
structure GoesBy (e : Engine κ σ) (hidden : String → Bool) (look : σ → β) : Prop where
  reads : ∀ name ∈ readNames, hidden name = false
  execute : ∀ k window command index s t, Scene.Alike hidden look s t →
    (e.collaborators.execute k window command index t).1.map Outcome.timeless =
        (e.collaborators.execute k window command index s).1.map Outcome.timeless ∧
      Scene.Alike hidden look (e.collaborators.execute k window command index s).2
        (e.collaborators.execute k window command index t).2
  notify : ∀ k p q s t, q.timeless = p.timeless → Scene.Alike hidden look s t →
    Scene.Alike hidden look (e.collaborators.notify k p s).2 (e.collaborators.notify k q t).2

/-- Releases change nothing that is looked at. -/
def ReleasesUnseen (e : Engine κ σ) (hidden : String → Bool) (look : σ → β) : Prop :=
  ∀ k owner name s, Scene.Alike hidden look s (e.collaborators.invoke k owner name [] s).2

section Alike

variable {hidden : String → Bool} {look : σ → β} {e e' : Engine κ σ}
  {s t : Scene κ σ} {r r' r₁ r₁' : Run κ σ} {start : Value} {total index : Nat} {command : Command}
  {x y : CommandResult}

/-! ### Results -/

theorem currentUrl_alike (hread : ∀ name ∈ readNames, hidden name = false)
    (h : Scene.Alike hidden look s t) :
    t.context.currentUrl t.store = s.context.currentUrl s.store := by
  have hbase := congrArg Context.baseUrl h.context
  change t.context.baseUrl = s.context.baseUrl at hbase
  unfold Context.currentUrl Store.windowUrl?
  rw [h.window, hbase, h.field (hread "location" (by decide)),
    h.field (hread "href" (by decide)), h.field (hread "url" (by decide))]

theorem failure_alike (hread : ∀ name ∈ readNames, hidden name = false)
    (h : Scene.Alike hidden look s t) {name message : String}
    (hx : failure name index message s = .ok x) (hy : failure name index message t = .ok y) :
    y.timeless = x.timeless := by
  unfold failure at hx hy
  cases hs : Clock.milliseconds s.clock with
  | error f =>
    rw [hs] at hx
    cases hx
  | ok now =>
    cases ht : Clock.milliseconds t.clock with
    | error f =>
      rw [ht] at hy
      cases hy
    | ok now' =>
      rw [hs] at hx
      rw [ht] at hy
      obtain rfl := Except.ok.inj hx
      obtain rfl := Except.ok.inj hy
      simp only [CommandResult.failed, CommandResult.timeless, CommandError.timeless,
        Option.map_some, currentUrl_alike hread h]

theorem resultOf_value (command : Command) (s : Scene κ σ) {v : Value} (hv : v ≠ .null) :
    resultOf command s (.ok (.value v)) =
      match CommandResult.check ((Clock.milliseconds s.clock).toOption.getD 0) s.store.lookup v with
      | .pass result => .ok result
      | .fail issues => .error (rejectionText "CommandResult" issues) := by
  cases v <;> first | rfl | exact absurd rfl hv

theorem resultOf_alike (h : Scene.Alike hidden look s t) (command : Command)
    {o o' : Except Failure Outcome} (ho : o'.map Outcome.timeless = o.map Outcome.timeless) :
    (resultOf command t o').map CommandResult.timeless =
      (resultOf command s o).map CommandResult.timeless := by
  cases o with
  | error f =>
    cases o' with
    | error f' =>
      obtain rfl := Except.error.inj ho
      rfl
    | ok _ => cases ho
  | ok o =>
    cases o' with
    | error f => cases ho
    | ok o' =>
      have hout : o'.timeless = o.timeless := Except.ok.inj ho
      cases o with
      | result a =>
        cases o' with
        | result b => exact congrArg Except.ok (Outcome.result.inj hout)
        | value w => cases hout
      | value v =>
        cases o' with
        | result b => cases hout
        | value w =>
          obtain rfl := Outcome.value.inj hout
          -- Null is refused before it is checked, at any time.
          by_cases hnull : w = .null
          · subst hnull
            rfl
          · rw [resultOf_value command s hnull, resultOf_value command t hnull, h.lookup]
            have hcheck := CommandResult.check_alike
              ((Clock.milliseconds s.clock).toOption.getD 0)
              ((Clock.milliseconds t.clock).toOption.getD 0) s.store.lookup w
            revert hcheck
            generalize CommandResult.check _ s.store.lookup w = first
            generalize CommandResult.check _ s.store.lookup w = second
            intro hcheck
            cases hcheck with
            | pass hsame => exact congrArg Except.ok hsame.symm
            | fail issues => rfl

theorem answered_alike (hread : ∀ name ∈ readNames, hidden name = false)
    {made made' : Except Failure Outcome × Scene κ σ}
    (ho : made'.1.map Outcome.timeless = made.1.map Outcome.timeless)
    (h : Scene.Alike hidden look made.2 made'.2)
    (hx : answered command index made = .ok x) (hy : answered command index made' = .ok y) :
    y.timeless = x.timeless := by
  have hsame := resultOf_alike h command ho
  unfold answered at hx hy
  cases hfirst : resultOf command made.2 made.1 with
  | ok a =>
    cases hsecond : resultOf command made'.2 made'.1 with
    | ok b =>
      rw [hfirst] at hx hsame
      rw [hsecond] at hy hsame
      obtain rfl := Except.ok.inj hx
      obtain rfl := Except.ok.inj hy
      exact Except.ok.inj hsame
    | error message =>
      rw [hfirst, hsecond] at hsame
      cases hsame
  | error message =>
    cases hsecond : resultOf command made'.2 made'.1 with
    | ok b =>
      rw [hfirst, hsecond] at hsame
      cases hsame
    | error message' =>
      rw [hfirst] at hx hsame
      rw [hsecond] at hy hsame
      obtain rfl := Except.error.inj hsame
      exact failure_alike hread h hx hy

/-! ### Steps -/

theorem emitProgress_alike (hgo : e.GoesBy hidden look) {name : String} {status : Status}
    (h : Scene.Alike hidden look r.scene r'.scene)
    (hx : e.emitProgress total index name status start r = (.ok (), r₁))
    (hy : e.emitProgress total index name status start r' = (.ok (), r₁')) :
    Scene.Alike hidden look r₁.scene r₁'.scene := by
  unfold emitProgress at hx hy
  cases hcallback : e.callback? with
  | none =>
    rw [hcallback] at hx hy
    obtain rfl := (Prod.mk.inj hx).2
    obtain rfl := (Prod.mk.inj hy).2
    exact h
  | some callback =>
    rw [hcallback] at hx hy
    cases hs : elapsedSince start r.scene.clock with
    | error f =>
      simp only [hs] at hx
      cases (Prod.mk.inj hx).1
    | ok elapsed =>
      cases ht : elapsedSince start r'.scene.clock with
      | error f =>
        simp only [ht] at hy
        cases (Prod.mk.inj hy).1
      | ok elapsed' =>
        simp only [hs] at hx
        simp only [ht] at hy
        obtain rfl := (Prod.mk.inj hx).2
        obtain rfl := (Prod.mk.inj hy).2
        exact hgo.notify callback _ _ r.scene r'.scene rfl h

theorem dispatch_alike (hgo : e.GoesBy hidden look)
    (h : Scene.Alike hidden look r.scene r'.scene)
    (hx : e.dispatch command index r = (.ok x, r₁))
    (hy : e.dispatch command index r' = (.ok y, r₁')) :
    y.timeless = x.timeless ∧ Scene.Alike hidden look r₁.scene r₁'.scene := by
  cases hexecutor : (r.scene.registries.get e.registry).get? command.name with
  | none =>
    have hother := hexecutor
    rw [← h.registries] at hother
    rw [dispatch_of_none hexecutor] at hx
    rw [dispatch_of_none hother] at hy
    obtain ⟨hfirst, rfl⟩ := Prod.mk.inj hx
    obtain ⟨hsecond, rfl⟩ := Prod.mk.inj hy
    exact ⟨failure_alike hgo.reads h hfirst hsecond, h⟩
  | some executor =>
    have hother := hexecutor
    rw [← h.registries] at hother
    rw [dispatch_of_some hexecutor] at hx
    rw [dispatch_of_some hother, h.window] at hy
    obtain ⟨hfirst, rfl⟩ := Prod.mk.inj hx
    obtain ⟨hsecond, rfl⟩ := Prod.mk.inj hy
    obtain ⟨ho, hscene⟩ :=
      hgo.execute executor r.scene.context.window command index r.scene r'.scene h
    exact ⟨answered_alike hgo.reads ho hscene hfirst hsecond, hscene⟩

theorem adoptState_alike (hread : ∀ name ∈ readNames, hidden name = false) (w : Value)
    (h : Scene.Alike hidden look r.scene r'.scene) :
    Scene.Alike hidden look (adoptState w r).scene (adoptState w r').scene := by
  have hremapper := hread "remapper" (by decide)
  have hstate : r'.scene.store.sessionState w = r.scene.store.sessionState w := by
    unfold Store.sessionState
    rw [h.field (hread "request_result" (by decide)), h.field (hread "requestResult" (by decide))]
  have hset (v value : Value) :
      (r'.scene.store.setField? v "remapper" value).map (Store.seen hidden) =
        (r.scene.store.setField? v "remapper" value).map (Store.seen hidden) := by
    rw [← Store.setField?_seen hremapper, h.store, Store.setField?_seen hremapper]
  have hadopted (v : Value) : Scene.Alike hidden look
      { r.scene with context := { r.scene.context with requestResult := v } }
      { r'.scene with context := { r'.scene.context with requestResult := v } } :=
    h.withContext (congrArg (fun c : Context => { c with requestResult := v }) h.context)
  unfold adoptState
  dsimp only
  rw [hstate, h.requestResult, h.field hremapper, h.field hremapper]
  split
  · exact h
  · split
    · have hboth := hset (r.scene.store.sessionState w)
        (r.scene.store.field r.scene.context.requestResult "remapper")
      revert hboth
      cases r.scene.store.setField? (r.scene.store.sessionState w) "remapper"
          (r.scene.store.field r.scene.context.requestResult "remapper") with
      | none =>
        cases r'.scene.store.setField? (r.scene.store.sessionState w) "remapper"
            (r.scene.store.field r.scene.context.requestResult "remapper") with
        | none => exact fun _ => hadopted _
        | some s' => intro hboth; cases hboth
      | some s =>
        cases r'.scene.store.setField? (r.scene.store.sessionState w) "remapper"
            (r.scene.store.field r.scene.context.requestResult "remapper") with
        | none => intro hboth; cases hboth
        | some s' =>
          intro hboth
          have hnew := hadopted (r.scene.store.sessionState w)
          exact ⟨Option.some.inj hboth, hnew.registries, hnew.context, hnew.memory⟩
    · exact hadopted _

theorem releaseReplaced_alike (hunseen : e.ReleasesUnseen hidden look) (old new : Value)
    (r : Run κ σ) : Scene.Alike hidden look r.scene (e.releaseReplaced old new r).scene := by
  rcases releaseReplaced_cases e old new r with hnone | ⟨routine, owner, name, hcall⟩
  · rw [hnone]
    exact .refl _
  · rw [hcall]
    exact hunseen routine owner name r.scene

theorem record_alike (command : Command) (hother : e.SameButReleases e')
    (hread : ∀ name ∈ readNames, hidden name = false)
    (hunseen : e.ReleasesUnseen hidden look) (hunseen' : e'.ReleasesUnseen hidden look)
    (h : Scene.Alike hidden look r.scene r'.scene) (hxy : y.timeless = x.timeless) :
    Scene.Alike hidden look (e.record command x r).scene (e'.record command y r').scene := by
  have hsuccess := congrArg CommandResult.success hxy
  have hdata := congrArg CommandResult.data hxy
  change y.success = x.success at hsuccess
  change y.data = x.data at hdata
  let noted := r.withContext fun c => { c with results := c.results ++ [x] }
  let noted' := r'.withContext fun c => { c with results := c.results ++ [y] }
  have hnoted : Scene.Alike hidden look noted.scene noted'.scene := by
    have hresults := congrArg Context.results h.context
    change r'.scene.context.results.map CommandResult.timeless =
      r.scene.context.results.map CommandResult.timeless at hresults
    have hrow : (r'.scene.context.results ++ [y]).map CommandResult.timeless =
        (r.scene.context.results ++ [x]).map CommandResult.timeless := by
      simp only [List.map_append, List.map_cons, List.map_nil, hresults, hxy]
    have hcontext : { r'.scene.context.timeless with
          results := (r'.scene.context.results ++ [y]).map CommandResult.timeless } =
        { r.scene.context.timeless with
          results := (r.scene.context.results ++ [x]).map CommandResult.timeless } := by
      rw [h.context, hrow]
    exact h.withContext hcontext
  have hnew : noted'.scene.store.newWindow y.data = noted.scene.store.newWindow x.data := by
    unfold Store.newWindow
    rw [hdata, hnoted.field (hread "newWindow" (by decide)),
      hnoted.field (hread "new_window" (by decide))]
  have hcarries : e'.carriesWindow command y noted' = e.carriesWindow command x noted := by
    rw [hother.carriesWindow_eq]
    unfold carriesWindow
    rw [hsuccess, hnew]
  -- Either run may release the old window or not: both stay alike to what was noted.
  have hreplaced : Scene.Alike hidden look (e.replaceWindow x.data noted).scene
      (e'.replaceWindow y.data noted').scene := by
    unfold replaceWindow
    dsimp only
    rw [hnew]
    have hfreed := ((releaseReplaced_alike hunseen noted.scene.context.window
      (noted.scene.store.newWindow x.data) noted).symm.trans hnoted).trans
        (releaseReplaced_alike hunseen' noted'.scene.context.window
          (noted.scene.store.newWindow x.data) noted')
    have hcontext := congrArg
      (fun c : Context => { c with window := noted.scene.store.newWindow x.data }) hfreed.context
    exact adoptState_alike hread _ (hfreed.withContext hcontext)
  unfold record
  change Scene.Alike hidden look
    (if e.carriesWindow command x noted then e.replaceWindow x.data noted else noted).scene
    (if e'.carriesWindow command y noted' then e'.replaceWindow y.data noted' else noted').scene
  rw [hcarries]
  split
  · exact hreplaced
  · exact hnoted

/-! ### Runs -/

theorem attempt_alike (hother : e.SameButReleases e') (hgo : e.GoesBy hidden look)
    (hunseen : e.ReleasesUnseen hidden look) (hunseen' : e'.ReleasesUnseen hidden look)
    (h : Scene.Alike hidden look r.scene r'.scene)
    (hx : e.attempt start total index command r = (.ok x, r₁))
    (hy : e'.attempt start total index command r' = (.ok y, r₁')) :
    y.timeless = x.timeless ∧ Scene.Alike hidden look r₁.scene r₁'.scene := by
  obtain ⟨a, made, rfl, rfl, rfl, rfl, rfl⟩ := makes_of_attempt hx
  obtain ⟨b, made', hindex, hcommand, rfl, rfl, rfl⟩ := makes_of_attempt hy
  have hannounce := made'.announce
  have hdispatch := made'.dispatch
  have hreport := made'.report
  rw [hother.emitProgress_eq, hindex, hcommand] at hannounce hreport
  rw [hother.dispatch_eq, hindex, hcommand] at hdispatch
  have hannounced := emitProgress_alike hgo h made.announce hannounce
  obtain ⟨hresult, hdispatched⟩ := dispatch_alike hgo hannounced made.dispatch hdispatch
  have hrecorded := record_alike a.command hother hgo.reads hunseen hunseen' hdispatched hresult
  rw [made.record, ← hcommand, made'.record] at hrecorded
  have hstatus : b.status = a.status := by
    have hsuccess := congrArg CommandResult.success hresult
    change b.result.success = a.result.success at hsuccess
    unfold Attempt.status
    rw [hsuccess]
  rw [hstatus] at hreport
  exact ⟨hresult, emitProgress_alike hgo hrecorded made.report hreport⟩

theorem runFrom_alike (hother : e.SameButReleases e') (hgo : e.GoesBy hidden look)
    (hunseen : e.ReleasesUnseen hidden look) (hunseen' : e'.ReleasesUnseen hidden look)
    {commands : List Command} (h : Scene.Alike hidden look r.scene r'.scene)
    (hx : e.runFrom start total index commands r = (.ok (), r₁))
    (hy : e'.runFrom start total index commands r' = (.ok (), r₁')) :
    Scene.Alike hidden look r₁.scene r₁'.scene := by
  induction commands generalizing index r r' with
  | nil =>
    obtain rfl := (Prod.mk.inj hx).2
    obtain rfl := (Prod.mk.inj hy).2
    exact h
  | cons command rest ih =>
    rw [runFrom_cons] at hx hy
    cases hfirst : e.attempt start total index command r with
    | mk outcome closed =>
      cases hsecond : e'.attempt start total index command r' with
      | mk outcome' closed' =>
        rw [hfirst] at hx
        rw [hsecond] at hy
        cases outcome with
        | error f => cases (Prod.mk.inj hx).1
        | ok x =>
          cases outcome' with
          | error f => cases (Prod.mk.inj hy).1
          | ok y =>
            obtain ⟨hresult, hclosed⟩ :=
              attempt_alike hother hgo hunseen hunseen' h hfirst hsecond
            have hsuccess := congrArg CommandResult.success hresult
            have hflag := congrArg Context.continueOnError hclosed.context
            change y.success = x.success at hsuccess
            change closed'.scene.context.continueOnError =
              closed.scene.context.continueOnError at hflag
            -- Alike scenes agree on the flag, so both runs end here or neither does.
            have hstops : stopsAfter y closed' = stopsAfter x closed := by
              unfold stopsAfter
              rw [hsuccess, hflag, hclosed.isTruthy]
            dsimp only at hx hy
            rw [hstops] at hy
            split at hx
            · rename_i hstop
              rw [if_pos hstop] at hy
              obtain rfl := (Prod.mk.inj hx).2
              obtain rfl := (Prod.mk.inj hy).2
              exact hclosed
            · rename_i hon
              rw [if_neg hon] at hy
              exact ih hclosed hx hy

theorem startOf_alike (h : Scene.Alike hidden look s t) (hclock : t.clock = s.clock) :
    startOf t = startOf s := by
  have hstart := congrArg Context.startTime h.context
  change t.context.startTime = s.context.startTime at hstart
  unfold startOf
  rw [hstart, h.isTruthy, hclock]

theorem prepare_alike (hread : ∀ name ∈ readNames, hidden name = false) (config : Config)
    (h : Scene.Alike hidden look r.scene r'.scene) (hclock : r'.scene.clock = r.scene.clock) :
    Scene.Alike hidden look (prepare config r).scene (prepare config r').scene := by
  refine h.withContext ?_
  have hurl (w : Value) : r'.scene.store.windowUrl? w = r.scene.store.windowUrl? w := by
    unfold Store.windowUrl?
    rw [h.field (hread "location" (by decide)), h.field (hread "href" (by decide)),
      h.field (hread "url" (by decide))]
  have hsnapshot (v : Value) :
      r'.scene.store.snapshot true v = r.scene.store.snapshot true v := by
    rw [← Store.snapshot_seen hidden r'.scene.store, h.store, Store.snapshot_seen]
  have hbase (settings : Option Settings) (w : Value) :
      Context.defaultBaseUrl r'.scene.store w settings =
        Context.defaultBaseUrl r.scene.store w settings := by
    unfold Context.defaultBaseUrl
    rw [hurl]
  have happly (c : Context) (settings : Option Settings) :
      c.applyDefaults r'.scene.store settings = c.applyDefaults r.scene.store settings := by
    unfold Context.applyDefaults
    simp only [hbase, hsnapshot]
  rw [startOf_alike h hclock]
  dsimp only
  rw [happly]
  -- Filling in does not touch the results, so it can be done before or after their times are erased.
  have hcontext := congrArg
    (fun c : Context => { c with startTime := startOf r.scene }.applyDefaults r.scene.store
      config.settings.toOption) h.context
  exact hcontext

/-- Where nobody but the engine sees what releases do, two runs that both come to an account come to
the same one, times apart, and to scenes that are alike. -/
theorem execute_alike (hother : e.SameButReleases e') (hgo : e.GoesBy hidden look)
    (hunseen : e.ReleasesUnseen hidden look) (hunseen' : e'.ReleasesUnseen hidden look)
    {config : Config} (h : Scene.Alike hidden look r.scene r'.scene)
    (hclock : r'.scene.clock = r.scene.clock) {account account' : RunResult}
    (hx : (e.execute config r).1 = .ok account) (hy : (e'.execute config r').1 = .ok account') :
    account'.results.map CommandResult.timeless = account.results.map CommandResult.timeless ∧
      Scene.Alike hidden look (e.execute config r).2.scene (e'.execute config r').2.scene := by
  obtain ⟨hplays, haccount⟩ := plays_of_execute_eq_ok hx
  obtain ⟨hplays', haccount'⟩ := plays_of_execute_eq_ok hy
  have hrun := (Goes.eq_attemptsFrom hplays).2
  have hrun' := (Goes.eq_attemptsFrom hplays').2
  rw [startOf_alike h hclock] at hrun'
  have hend := runFrom_alike hother hgo hunseen hunseen' (prepare_alike hgo.reads config h hclock)
    hrun hrun'
  refine ⟨?_, hend⟩
  rw [(account_tallies haccount).results, (account_tallies haccount').results]
  have hresults := congrArg Context.results hend.context
  exact hresults

end Alike

end Engine

end Playbook
