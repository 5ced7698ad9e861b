import Playbook.Proofs.Engine.Likeness

/-!
The discipline of releases: which windows are released in a run, by which calls and when, and how
little depends on what these calls do.
-/

namespace Playbook

variable {κ σ : Type}

namespace Engine

/-- What an attempt that is made up to its report does about the window that it replaces. -/
structure ReleasesInOrder (e : Engine κ σ) (a : Attempt κ σ) : Prop where
  /-- It is released where there was one before the attempt that does not stay. -/
  window : ∀ old, e.released? a = some old ↔
    e.config.releases = true ∧ old.isNull = false ∧ old = a.opened.scene.context.window ∧
      ∃ w, e.newWindow? a = some w ∧ old.isSameObject w = false
  order : ∀ w, e.newWindow? a = some w → e.Replaces a w
  call : ∀ m, e.releaser? a = some m → ∃ old, e.released? a = some old ∧ e.Releases a old m

variable {e : Engine κ σ} {start : Value} {total : Nat} {a : Attempt κ σ}

theorem Reaches.releasesInOrder (reached : e.Reaches start total a)
    (hkeep : e.collaborators.Keeps fun s => s.context.window) : e.ReleasesInOrder a where
  window old := by rw [released?_eq_some_iff, reached.dispatched_keeps hkeep]
  order _ hw := reached.replaces hw
  call _ hm := releases_of_releaser? hm

/-- The discipline of releases, where nobody but the engine assigns the active window. The methods
called in a run are those that release the windows replaced by its attempts, one after another, and
once at most for each; a run that is broken off may have made the call of the attempt it was broken
off in. An attempt releases the window it was opened with, after its result is noted and before the
new window is in place, unless there is none, or it is put in place again, or releases are turned
off. The new window is not called, unless the old one has it for its entry to abort.

Of the releases not much depends. How they answer makes no difference at all. Where they spare the
sessions, then whatever else they do, and whether there are any, an attempt leaves the same results,
the same window and the same session state. And where they change nothing that executors and
callbacks go by, two runs that both come to an account have the same results, times apart, and leave
alike scenes behind. -/
theorem releases_are_disciplined (e : Engine κ σ) (config : Config) (r : Run κ σ)
    (hkeep : e.collaborators.Keeps fun s => s.context.window) :
    let row := e.attempts config r
    let last := (e.execute config r).2
    (∃ outcome broken, e.Plays config r row outcome last ∧
      last.methods = r.methods ++ row.flatMap e.released ++ broken ∧
      (outcome = .ok () → broken = []) ∧
      (broken = [] ∨ ∃ a, e.Reaches (startOf r.scene) config.commands.length a ∧
        broken = e.released a)) ∧
    (∀ start total a, e.Reaches start total a → e.ReleasesInOrder a) ∧
    (∀ e' : Engine κ σ, e.SameButAnswers e' → e'.execute config r = e.execute config r) ∧
    (∀ e' : Engine κ σ, e.SameButReleases e' → e.SparesSessions → e'.SparesSessions →
      ∀ start total a, e.Reaches start total a →
        let recorded := e'.record a.command a.result a.dispatched
        recorded.scene.context = a.recorded.scene.context ∧
          recorded.scene.remapper = a.recorded.scene.remapper) ∧
    ∀ (β : Type) (hidden : String → Bool) (look : σ → β) (e' : Engine κ σ) (r' : Run κ σ),
      e.SameButReleases e' → e.GoesBy hidden look →
      e.ReleasesUnseen hidden look → e'.ReleasesUnseen hidden look →
      Scene.Alike hidden look r.scene r'.scene → r'.scene.clock = r.scene.clock →
        ∀ account account', (e.execute config r).1 = .ok account →
          (e'.execute config r').1 = .ok account' →
            account'.results.map CommandResult.timeless =
                account.results.map CommandResult.timeless ∧
              Scene.Alike hidden look last.scene (e'.execute config r').2.scene := by
  intro row last
  obtain ⟨outcome, hplays, _⟩ := plays_attempts e config r
  obtain ⟨broken, hmethods, hend, hbroken⟩ := Goes.methods hplays
  refine ⟨⟨outcome, broken, hplays, hmethods, hend, hbroken⟩, ?_, ?_, ?_, ?_⟩
  · intro start total a reached
    exact reached.releasesInOrder hkeep
  · intro e' hanswers
    exact hanswers.execute_eq config r
  · intro e' hother hspare hspare' start total a reached
    rw [← reached.record]
    exact hother.record_spared hspare hspare' a
  · intro β hidden look e' r' hother hgo hunseen hunseen' halike hclock account account' hx hy
    exact execute_alike hother hgo hunseen hunseen' halike hclock hx hy

end Engine

/-- What those do who work with windows here: an executor opens a window or looks around, and a
method shuts a window for good. -/
inductive Usher where
  | opens (window : Value)
  | looks
  | shuts

/-- Ushers that remember whether a window was shut. Who looks around fails when `minds` says so. -/
def Usher.engine (minds : Bool → Bool) : Engine Usher Bool where
  collaborators :=
    { isAsync := fun _ => false
      execute := fun usher _ command index s =>
        match usher with
        | .opens window =>
          (.ok (.result ⟨command.name, index, true, 0, none, .ofFields [("newWindow", window)]⟩), s)
        | _ => (.ok (.result ⟨command.name, index, !minds s.memory, 0, none, .null⟩), s)
      notify := fun _ _ s => (.ok (), s)
      invoke := fun _ _ _ _ s => (.error ⟨"OSError", "jammed"⟩, { s with memory := true }) }

/-- A run among two windows, in which the second is opened in place of the first. -/
def Usher.run (first second : Cell Usher) : Run Usher Bool where
  scene :=
    { clock := 1000.0
      store := ⟨[(.named "first", first), (.named "second", second)], 0⟩
      registries :=
        ⟨⟨[("navigate", .opens (.handle (.named "second"))), ("look", .looks)]⟩, []⟩
      context := { window := .handle (.named "first") }
      memory := false }
  trace := []

namespace Engine

def visitConfig : Config := .ofNames ["navigate", "look"]

def bareWindow : Cell Usher := ⟨.object, [], []⟩

def closableWindow : Cell Usher := ⟨.object, [], [("close", .shuts)]⟩

/-- A window that has the other one for its entry to abort. -/
def entangledWindow : Cell Usher :=
  ⟨.object, [(.text "happyDOM", .handle (.named "second"))], []⟩

def abortableWindow : Cell Usher := ⟨.object, [], [("abort", .shuts)]⟩

/-- The names that tell whether a window can be released. -/
def isReleaseName (name : String) : Bool := name == "close" || name == "abort"

theorem keeps_window_usher (minds : Bool → Bool) :
    (Usher.engine minds).collaborators.Keeps fun s => s.context.window where
  execute k _ _ _ _ := by cases k <;> rfl
  notify _ _ _ := rfl
  invoke _ _ _ _ _ := rfl

theorem sparesSessions_usher (minds : Bool → Bool) : (Usher.engine minds).SparesSessions :=
  fun _ _ _ _ => ⟨rfl, fun _ _ _ => rfl, fun _ => rfl⟩

/-- Where nobody minds whether a window was shut, ushers go by everything else. -/
theorem goesBy_usher :
    (Usher.engine fun _ => false).GoesBy isReleaseName fun _ => () where
  reads := by decide
  execute k _ _ _ _ _ h := by cases k <;> exact ⟨rfl, h⟩
  notify _ _ _ _ _ _ h := h

theorem closed_window_makes_no_difference :
    let e := Usher.engine fun _ => false
    let r := Usher.run closableWindow bareWindow
    let r' := Usher.run bareWindow bareWindow
    (e.execute visitConfig r).2.methods = [.method (.named "first") "close" []] ∧
      (∀ a ∈ e.attempts visitConfig r, e.ReleasesInOrder a) ∧
      ∃ account account', (e.execute visitConfig r).1 = .ok account ∧
        (e.execute visitConfig r').1 = .ok account' ∧ account.results.length = 2 ∧
        account'.results.map CommandResult.timeless =
          account.results.map CommandResult.timeless := by
  intro e r r'
  obtain ⟨⟨_, _, hplays, _⟩, horder, _, _, halike⟩ :=
    releases_are_disciplined e visitConfig r (keeps_window_usher _)
  have hunseen : e.ReleasesUnseen isReleaseName fun _ => () := fun _ _ _ _ => ⟨rfl, rfl, rfl, rfl⟩
  have hscene : Scene.Alike isReleaseName (fun _ => ()) r.scene r'.scene := ⟨rfl, rfl, rfl, rfl⟩
  have hlength : (e.execute visitConfig r).1.toOption.map (fun a => a.results.length) = some 2 := by
    decide +kernel
  have hother : (e.execute visitConfig r').1.toOption.isSome = true := by decide +kernel
  refine ⟨rfl, fun a ha => horder _ _ a (Goes.made hplays a ha).reaches, ?_⟩
  cases hreturn : (e.execute visitConfig r).1 with
  | error f =>
    rw [hreturn] at hlength
    cases hlength
  | ok account =>
    cases hreturn' : (e.execute visitConfig r').1 with
    | error f =>
      rw [hreturn'] at hother
      cases hother
    | ok account' =>
      rw [hreturn] at hlength
      obtain ⟨hresults, _⟩ := halike Unit isReleaseName (fun _ => ()) e r'
        ⟨rfl, rfl, rfl, rfl, rfl⟩ goesBy_usher hunseen hunseen hscene rfl account account' hreturn
        hreturn'
      exact ⟨account, account', rfl, rfl, Option.some.inj hlength, hresults⟩

/-- Two things that one may expect of releases and that do not hold. The new window is called when
the old one has it for its entry to abort. And a release that spares the sessions may still change
the results of commands after it, when their executors go by something else that it does. -/
theorem release_reaches_further_counterexample :
    ¬ (∀ a ∈ (Usher.engine id).attempts visitConfig (Usher.run entangledWindow abortableWindow),
        ∀ w, (Usher.engine id).newWindow? a = some w →
          ∀ m, (Usher.engine id).releaser? a = some m →
            (Value.handle m.owner).isSameObject w = false) ∧
      (Usher.engine id).SparesSessions ∧
      ((Usher.engine id).execute visitConfig
          (Usher.run bareWindow bareWindow)).2.scene.context.results.map CommandResult.timeless ≠
        ((Usher.engine id).execute visitConfig
          (Usher.run closableWindow bareWindow)).2.scene.context.results.map
            CommandResult.timeless := by
  refine ⟨?_, sparesSessions_usher id, ?_⟩
  · intro hspared
    have hcalls : ((Usher.engine id).attempts visitConfig
        (Usher.run entangledWindow abortableWindow)).any (fun a =>
          ((Usher.engine id).newWindow? a).any fun w =>
            ((Usher.engine id).releaser? a).any fun m =>
              (Value.handle m.owner).isSameObject w) = true := by decide +kernel
    obtain ⟨a, ha, hcall⟩ := List.any_eq_true.mp hcalls
    obtain ⟨w, hwindow, hcall⟩ := (Option.any_eq_true _ _).mp hcall
    obtain ⟨m, hrelease, hsame⟩ := (Option.any_eq_true _ _).mp hcall
    rw [hspared a ha w hwindow m hrelease] at hsame
    cases hsame
  · intro hsame
    have hsuccess := congrArg (List.map CommandResult.success) hsame
    revert hsuccess
    decide +kernel

end Engine

end Playbook
