import Playbook.Proofs.Engine.Discipline

/-!
Windows that are replaced and not released. A window may offer to be released in three ways: by
`abort` of either of its two entries, and by its own `close`. One of the entries is turned to before
it is known whether there is anything to abort it by, and when it shows something under that name
that cannot be called, nothing else is tried. So a window that offers to be released is released
unless one of four things stands in the way, and when one does, it is left as it is.
-/

namespace Playbook

variable {κ σ : Type}

namespace Store

variable {μ : Type} {s : Store μ} {window : Value} {m : Member μ}

/-- Whether a member is something to call. -/
def Member.isCallable : Member μ → Bool
  | .method _ | .plain .callable => true
  | .plain _ => false

/-- The places that a window may be released at: its entries, and itself. -/
inductive ReleaseSite where
  | happyDOM
  | happyDom
  | itself
  deriving DecidableEq

namespace ReleaseSite

/-- What stands at a place. -/
def owner (s : Store μ) (window : Value) : ReleaseSite → Value
  | happyDOM => s.field window "happyDOM"
  | happyDom => s.field window "happy_dom"
  | itself => window

/-- What it is released by. -/
def method : ReleaseSite → String
  | happyDOM | happyDom => "abort"
  | itself => "close"

end ReleaseSite

variable {site : ReleaseSite}

/-- What a window shows at a place under the name that it is released by. -/
def shown? (s : Store μ) (window : Value) (site : ReleaseSite) : Option (Member μ) :=
  s.presentAttribute? (site.owner s window) site.method

/-- A window can be released at a place. -/
def Offers (s : Store μ) (window : Value) (site : ReleaseSite) : Prop :=
  ∃ m, s.shown? window site = some m ∧ m.isCallable = true

/-- The entry that is turned to: the first one, unless it counts as nothing. -/
def entrySite (s : Store μ) (window : Value) : ReleaseSite :=
  if s.isTruthy (s.field window "happyDOM") then .happyDOM else .happyDom

/-- A place is turned to: it is that entry, or the window itself when the entry shows nothing. -/
def TurnsTo (s : Store μ) (window : Value) (site : ReleaseSite) : Prop :=
  site = s.entrySite window ∨ site = .itself ∧ s.shown? window (s.entrySite window) = none

/-- What keeps a window from being released. -/
inductive Overlooked (s : Store μ) (window : Value) : Prop
  /-- It can be released at its second entry, behind a first one that counts as something and shows
  nothing to abort it by. -/
  | behind (first : s.isTruthy (s.field window "happyDOM") = true)
      (offered : s.Offers window .happyDom) (bare : s.shown? window .happyDOM = none)
      (unclosed : s.shown? window .itself = none)
  /-- It can be released at its first entry, which counts as nothing. -/
  | passedOver (first : s.isTruthy (s.field window "happyDOM") = false)
      (offered : s.Offers window .happyDOM) (bare : s.shown? window .happyDom = none)
      (unclosed : s.shown? window .itself = none)
  /-- The entry that counts shows something that cannot be called. -/
  | stuckAtEntry {m : Member μ} (shown : s.shown? window (s.entrySite window) = some m)
      (inert : m.isCallable = false)
  /-- The window does, and the entry that counts shows nothing. -/
  | stuckAtWindow {m : Member μ} (bare : s.shown? window (s.entrySite window) = none)
      (shown : s.shown? window .itself = some m) (inert : m.isCallable = false)

theorem owner_entrySite (s : Store μ) (window : Value) :
    (s.entrySite window).owner s window = s.abortEntry window := by
  unfold entrySite abortEntry
  split <;> rfl

theorem method_entrySite (s : Store μ) (window : Value) :
    (s.entrySite window).method = "abort" := by
  unfold entrySite
  split <;> rfl

theorem shown?_entrySite (s : Store μ) (window : Value) :
    s.shown? window (s.entrySite window) =
      s.presentAttribute? (s.abortEntry window) "abort" := by
  rw [shown?, owner_entrySite, method_entrySite]

/-- The method that releases a window is what it shows at the place that is turned to. -/
theorem releaser?_of_turnsTo (hturn : s.TurnsTo window site)
    (hshown : s.shown? window site = some m) :
    s.releaser? window = callable? (site.owner s window) site.method m := by
  rcases hturn with rfl | ⟨rfl, hbare⟩
  · rw [shown?_entrySite] at hshown
    rw [owner_entrySite, method_entrySite]
    unfold releaser?
    rw [hshown]
  · rw [shown?_entrySite] at hbare
    have hclose : s.presentAttribute? window "close" = some m := hshown
    unfold releaser?
    rw [hbare]
    dsimp only
    rw [hclose]
    rfl

theorem releaser?_eq_none_of_bare (hbare : s.shown? window (s.entrySite window) = none)
    (hunclosed : s.shown? window .itself = none) : s.releaser? window = none := by
  rw [shown?_entrySite] at hbare
  have hclose : s.presentAttribute? window "close" = none := hunclosed
  unfold releaser?
  rw [hbare]
  dsimp only
  rw [hclose]
  rfl

theorem callable?_of_inert {owner : Value} {name : String} (h : m.isCallable = false) :
    callable? owner name m = none := by
  cases m with
  | method routine => cases h
  | plain v => rfl

/-- Only one of the places that are turned to shows something. -/
theorem TurnsTo.unique {other : ReleaseSite} {n : Member μ} (hsite : s.TurnsTo window site)
    (hother : s.TurnsTo window other) (hm : s.shown? window site = some m)
    (hn : s.shown? window other = some n) : site = other := by
  rcases hsite with rfl | ⟨rfl, hbare⟩ <;> rcases hother with rfl | ⟨rfl, hbare'⟩
  · rfl
  · rw [hm] at hbare'
    cases hbare'
  · rw [hn] at hbare
    cases hbare
  · rfl

/-- A window that is overlooked shows nothing where it is turned to, or nothing that can be
called. -/
theorem Overlooked.bare_or_inert (h : s.Overlooked window) :
    (s.shown? window (s.entrySite window) = none ∧ s.shown? window .itself = none) ∨
      ∃ site m, s.TurnsTo window site ∧ s.shown? window site = some m ∧ m.isCallable = false := by
  cases h with
  | behind first _ bare unclosed => exact .inl ⟨by rwa [entrySite, if_pos first], unclosed⟩
  | passedOver first _ bare unclosed =>
    exact .inl ⟨by rwa [entrySite, if_neg (by simp [first])], unclosed⟩
  | stuckAtEntry shown inert => exact .inr ⟨_, _, .inl rfl, shown, inert⟩
  | stuckAtWindow bare shown inert => exact .inr ⟨_, _, .inr ⟨rfl, bare⟩, shown, inert⟩

/-- A window that is overlooked has no method to release it. -/
theorem Overlooked.releaser?_eq_none (h : s.Overlooked window) : s.releaser? window = none := by
  rcases h.bare_or_inert with ⟨hbare, hunclosed⟩ | ⟨site, m, hturn, hshown, hinert⟩
  · exact releaser?_eq_none_of_bare hbare hunclosed
  · rw [releaser?_of_turnsTo hturn hshown, callable?_of_inert hinert]

/-- What is overlooked is nothing that can be called where it is turned to. -/
theorem Overlooked.inert_of_turnsTo (h : s.Overlooked window) (hturn : s.TurnsTo window site)
    (hshown : s.shown? window site = some m) : m.isCallable = false := by
  rcases h.bare_or_inert with ⟨hbare, hunclosed⟩ | ⟨other, n, hother, hn, hinert⟩
  · rcases hturn with rfl | ⟨rfl, _⟩
    · rw [hbare] at hshown
      cases hshown
    · rw [hunclosed] at hshown
      cases hshown
  · obtain rfl := hturn.unique hother hshown hn
    rw [hn] at hshown
    exact Option.some.inj hshown ▸ hinert

/-- A window that can be released somewhere is turned to where it can, or is overlooked. -/
theorem turnsTo_or_overlooked (h : s.Offers window site) :
    (∃ turned m, s.TurnsTo window turned ∧ s.shown? window turned = some m ∧
      m.isCallable = true) ∨ s.Overlooked window := by
  cases hentry : s.shown? window (s.entrySite window) with
  | some m =>
    cases hcallable : m.isCallable with
    | true => exact .inl ⟨_, m, .inl rfl, hentry, hcallable⟩
    | false => exact .inr (.stuckAtEntry hentry hcallable)
  | none =>
    cases hwindow : s.shown? window .itself with
    | some m =>
      cases hcallable : m.isCallable with
      | true => exact .inl ⟨_, m, .inr ⟨rfl, hentry⟩, hwindow, hcallable⟩
      | false => exact .inr (.stuckAtWindow hentry hwindow hcallable)
    | none =>
      -- It can be released at the entry that is not turned to and nowhere else.
      obtain ⟨m, hshown, _⟩ := id h
      cases hfirst : s.isTruthy (s.field window "happyDOM") with
      | true =>
        rw [entrySite, if_pos hfirst] at hentry
        cases site with
        | happyDOM =>
          rw [hentry] at hshown
          cases hshown
        | happyDom => exact .inr (.behind hfirst h hentry hwindow)
        | itself =>
          rw [hwindow] at hshown
          cases hshown
      | false =>
        rw [entrySite, if_neg (by simp [hfirst])] at hentry
        cases site with
        | happyDOM => exact .inr (.passedOver hfirst h hentry hwindow)
        | happyDom =>
          rw [hentry] at hshown
          cases hshown
        | itself =>
          rw [hwindow] at hshown
          cases hshown

end Store

namespace Engine

variable {e : Engine κ σ} {a : Attempt κ σ} {old : Value}

/-- An attempt releases the window `old` at a place. A method of an object is called there, once,
without arguments and as the only one; of anything else that can be called no event tells. -/
inductive ReleasesAt (e : Engine κ σ) (a : Attempt κ σ) (old : Value) (site : Store.ReleaseSite) :
    Prop
  | method {owner : Handle} {routine : κ} (turned : a.noted.scene.store.TurnsTo old site)
      (stands : site.owner a.noted.scene.store old = .handle owner)
      (shown : a.noted.scene.store.shown? old site = some (.method routine))
      (called : e.released a = [.method owner site.method []])
      (answered : e.freed a =
        (a.noted.callMethod e.collaborators routine owner site.method []).2)
  | silent (turned : a.noted.scene.store.TurnsTo old site)
      (shown : a.noted.scene.store.shown? old site = some (.plain .callable))
      (still : e.freed a = a.noted)

theorem releaser?_of_released? (h : e.released? a = some old) :
    e.releaser? a = a.noted.scene.store.releaser? old := by
  rw [releaser?, h]
  rfl

/-- What can be called where it is turned to is called. -/
theorem releasesAt_of_turnsTo {site : Store.ReleaseSite} {m : Store.Member κ}
    (hold : e.released? a = some old) (hturn : a.noted.scene.store.TurnsTo old site)
    (hshown : a.noted.scene.store.shown? old site = some m) (hcallable : m.isCallable = true) :
    e.ReleasesAt a old site := by
  have hreleaser := (releaser?_of_released? hold).trans (Store.releaser?_of_turnsTo hturn hshown)
  have hfreed := freed_eq e a
  cases m with
  | method routine =>
    obtain ⟨owner, _, howner, _⟩ :=
      Store.attribute?_eq_method (Store.attribute?_of_presentAttribute? hshown)
    rw [howner] at hreleaser
    refine .method hturn howner hshown ?_ ?_
    · rw [released, hreleaser]
      rfl
    · rw [hfreed, hreleaser]
      rfl
  | plain v =>
    obtain rfl : v = .callable := by
      cases v <;> first | rfl | cases hcallable
    refine .silent hturn hshown ?_
    rw [hfreed, hreleaser]
    rfl

theorem ReleasesAt.not_overlooked {site : Store.ReleaseSite} (h : e.ReleasesAt a old site) :
    ¬ a.noted.scene.store.Overlooked old := by
  intro hover
  cases h with
  | method turned _ shown => cases hover.inert_of_turnsTo turned shown
  | silent turned shown => cases hover.inert_of_turnsTo turned shown

/-- Which replaced windows leak. The methods called in a run are those that release the windows
replaced by its attempts. Where releases are on and an attempt replaces a window by another one,
and the old window offers to be released at one of its entries or by itself, then it is released at
one of these places just when it is not overlooked; a window that is overlooked is left without any
call. -/
theorem replaced_windows_are_released_unless_overlooked (e : Engine κ σ) (config : Config)
    (r : Run κ σ) (hreleases : e.config.releases = true) :
    let row := e.attempts config r
    let last := (e.execute config r).2
    let total := config.commands.length
    (∃ broken : List Event, last.methods = r.methods ++ row.flatMap e.released ++ broken ∧
      (broken = [] ∨ ∃ a, e.Reaches (startOf r.scene) total a ∧ broken = e.released a)) ∧
      (∀ a ∈ row, e.Reaches (startOf r.scene) total a) ∧
      ∀ a, e.Reaches (startOf r.scene) total a → ∀ new, e.newWindow? a = some new →
        let store := a.noted.scene.store
        let old := a.noted.scene.context.window
        old.isNull = false → old.isSameObject new = false →
          (∀ site, store.Offers old site →
            ((∃ place, store.Offers old place ∧ e.ReleasesAt a old place) ↔
              ¬ store.Overlooked old)) ∧
          (store.Overlooked old → e.released a = [] ∧ e.freed a = a.noted) := by
  intro row last total
  obtain ⟨outcome, hplays, _⟩ := plays_attempts e config r
  obtain ⟨broken, hmethods, _, hbroken⟩ := Goes.methods hplays
  refine ⟨⟨broken, hmethods, hbroken⟩, fun a ha => (Goes.made hplays a ha).reaches, ?_⟩
  intro a _ new hnew store old hnull hother
  have hold : e.released? a = some old :=
    released?_eq_some_iff.mpr ⟨hreleases, hnull, rfl, new, hnew, hother⟩
  refine ⟨fun site hoffers => ⟨?_, fun hseen => ?_⟩, fun hover => ?_⟩
  · rintro ⟨place, _, hplace⟩
    exact hplace.not_overlooked
  · rcases Store.turnsTo_or_overlooked hoffers with ⟨place, m, hturn, hshown, hcallable⟩ | hover
    · exact ⟨place, ⟨m, hshown, hcallable⟩, releasesAt_of_turnsTo hold hturn hshown hcallable⟩
    · exact absurd hover hseen
  · have hnone : e.releaser? a = none :=
      (releaser?_of_released? hold).trans hover.releaser?_eq_none
    refine ⟨?_, ?_⟩
    · rw [released, hnone]
      rfl
    · rw [freed_eq, hnone]
      rfl

theorem closable_window_is_released :
    let e := Usher.engine fun _ => false
    let r := Usher.run closableWindow bareWindow
    let first : Value := .handle (.named "first")
    (e.execute visitConfig r).2.methods = [.method (.named "first") "close" []] ∧
      ∃ a ∈ e.attempts visitConfig r, ¬ a.noted.scene.store.Overlooked first ∧
        ∃ place, e.ReleasesAt a first place := by
  intro e r first
  obtain ⟨_, hreaches, hreleased⟩ :=
    replaced_windows_are_released_unless_overlooked e visitConfig r rfl
  obtain ⟨a, ha, hnew, hwindow, hstore⟩ : ∃ a ∈ e.attempts visitConfig r,
      e.newWindow? a = some (.handle (.named "second")) ∧ a.noted.scene.context.window = first ∧
        a.noted.scene.store = r.scene.store :=
    ⟨_, List.mem_cons_self, rfl, rfl, rfl⟩
  have hcalled := hreleased a (hreaches a ha) _ hnew
  rw [hwindow, hstore] at hcalled
  obtain ⟨hiff, _⟩ := hcalled rfl rfl
  have hseen : ¬ r.scene.store.Overlooked first := by
    intro hover
    cases hover.releaser?_eq_none
  obtain ⟨place, _, hplace⟩ := (hiff .itself ⟨.method .shuts, rfl, rfl⟩).mpr hseen
  rw [← hstore] at hseen
  exact ⟨rfl, a, ha, hseen, place, hplace⟩

/-- A window with two entries, of which only the second can be aborted. -/
def twofoldWindow : Cell Usher :=
  ⟨.object, [(.text "happyDOM", .handle (.named "third")),
    (.text "happy_dom", .handle (.named "fourth"))], []⟩

def twofoldRun : Run Usher Bool :=
  let r := Usher.run twofoldWindow bareWindow
  let store := (r.scene.store.put (.named "third") bareWindow).put (.named "fourth") abortableWindow
  { r with scene := { r.scene with store } }

/-- A window may leak although it can be released: its second entry can be aborted, but the first
one, on which there is nothing to call, is the one that is turned to. -/
theorem twofold_window_leaks :
    let e := Usher.engine fun _ => false
    let first : Value := .handle (.named "first")
    e.config.releases = true ∧ (e.execute visitConfig twofoldRun).2.methods = [] ∧
      ∃ a ∈ e.attempts visitConfig twofoldRun,
        e.newWindow? a = some (.handle (.named "second")) ∧
          a.noted.scene.context.window = first ∧ a.noted.scene.store.Offers first .happyDom := by
  intro e first
  refine ⟨rfl, rfl, _, List.mem_cons_self, rfl, rfl, .method .shuts, rfl, rfl⟩

end Engine

end Playbook
