import Playbook.Proofs.Engine.Threading

/-!
The remapper of the session. It belongs to the session and not to a window: a session state that is
adopted keeps the remapper it has, and one that has none takes over the remapper of the session
state before it. Once there is a remapper there is one from then on, whichever session states come,
go and come back.
-/

namespace Playbook

variable {κ σ : Type}

/-- The run at every moment of an attempt. -/
def Attempt.moments (a : Attempt κ σ) : List (Run κ σ) :=
  [a.opened, a.announced, a.dispatched, a.recorded, a.closed]

namespace Engine

/-- The remapper that a session state brings with it when an attempt installs it. -/
def ownRemapper? (e : Engine κ σ) (a : Attempt κ σ) : Option Value :=
  (e.newState? a).bind fun state =>
    Store.present? ((e.freed a).scene.store.field state "remapper")

/-- The remapper after a row of attempts: the one that was brought along last, or else the first. -/
def remapperAfter (e : Engine κ σ) (first : Value) (row : List (Attempt κ σ)) : Value :=
  Attempt.latest e.ownRemapper? first row

/-- What an attempt leaves of the session. -/
structure CarriesSession (e : Engine κ σ) (a : Attempt κ σ) : Prop where
  stays : e.newState? a = none →
    a.closed.scene.context.requestResult = a.opened.scene.context.requestResult ∧
      a.closed.scene.remapper = a.opened.scene.remapper
  adopts : ∀ state, e.newState? a = some state →
    a.closed.scene.context.requestResult = state
  /-- A session state with a remapper of its own keeps it. -/
  keepsOwn : ∀ state, e.newState? a = some state →
    ((e.freed a).scene.store.field state "remapper").isNull = false →
      a.closed.scene.remapper = (e.freed a).scene.store.field state "remapper"
  /-- One without takes over that of the session state in whose place it is put. -/
  takesOver : ∀ state, e.newState? a = some state →
    ((e.freed a).scene.store.field state "remapper").isNull = true →
      a.closed.scene.remapper = a.opened.scene.remapper

section Carrying

variable {e : Engine κ σ} {start : Value} {total : Nat} {a : Attempt κ σ}

theorem ownRemapper?_present {own : Value} (h : e.ownRemapper? a = some own) :
    own.isNull = false := by
  unfold ownRemapper? at h
  obtain ⟨state, _, hstate⟩ := Option.bind_eq_some_iff.mp h
  obtain ⟨hpresent, rfl⟩ := Store.present?_eq_some_iff.mp hstate
  exact hpresent

theorem remapperAfter_append (e : Engine κ σ) (first : Value) (row later : List (Attempt κ σ)) :
    e.remapperAfter first (row ++ later) = e.remapperAfter (e.remapperAfter first row) later :=
  Attempt.latest_append e.ownRemapper? first row later

/-- A remapper that is there stays there. -/
theorem remapperAfter_present {first : Value} (row : List (Attempt κ σ))
    (h : first.isNull = false) : (e.remapperAfter first row).isNull = false := by
  unfold remapperAfter
  induction row generalizing first with
  | nil => exact h
  | cons a rest ih =>
    rw [Attempt.latest_cons]
    apply ih
    cases hown : e.ownRemapper? a with
    | none => exact h
    | some own => exact ownRemapper?_present hown

theorem remapper_record
    (hfreed : (e.freed a).scene.remapper = a.noted.scene.remapper)
    (hsettable : ∀ state ∈ e.newState? a, (e.freed a).scene.store.settable state = true) :
    (e.record a.command a.result a.dispatched).scene.remapper =
      (e.ownRemapper? a).getD a.dispatched.scene.remapper := by
  cases hwindow : e.newWindow? a with
  | none =>
    rw [record_of_none hwindow, ownRemapper?, newState?, hwindow]
    rfl
  | some w =>
    let placed := (e.freed a).withContext fun c => { c with window := w }
    have hplaced : placed.scene.remapper = a.dispatched.scene.remapper := hfreed
    have hfound : e.newState? a =
        placed.scene.store.firstPresent w ["request_result", "requestResult"] := by
      rw [newState?, hwindow]
      rfl
    rw [record_of_some hwindow, ownRemapper?]
    cases hstate : e.newState? a with
    | none =>
      rw [adoptState_of_none w placed (hfound.symm.trans hstate), hplaced]
      rfl
    | some state =>
      have hadopted := remapper_adoptState w placed (hfound.symm.trans hstate)
        (hsettable state hstate)
      rw [hadopted, hplaced]
      cases hown : ((e.freed a).scene.store.field state "remapper").isNull <;>
        simp [placed, Store.present?, hown]

theorem Makes.remapper_closed (made : e.Makes start total a)
    (hleave : e.Leaves a fun s => s.remapper)
    (hsettable : ∀ state ∈ e.newState? a, (e.freed a).scene.store.settable state = true) :
    a.closed.scene.remapper = (e.ownRemapper? a).getD a.opened.scene.remapper := by
  calc
    a.closed.scene.remapper = a.recorded.scene.remapper := hleave.report
    _ = (e.ownRemapper? a).getD a.dispatched.scene.remapper := by
      rw [← made.record, remapper_record hleave.release hsettable]
    _ = (e.ownRemapper? a).getD a.opened.scene.remapper := by
      rw [hleave.dispatch, hleave.announce]

theorem Makes.session_closed (made : e.Makes start total a)
    (hleave : e.Leaves a fun s => s.context.requestResult) :
    a.closed.scene.context.requestResult =
      (e.newState? a).getD a.opened.scene.context.requestResult := by
  rw [hleave.report, ← made.record, session_record hleave.release, hleave.dispatch,
    hleave.announce]

theorem Makes.carriesSession (made : e.Makes start total a)
    (hleave : e.Leaves a fun s => (s.context.requestResult, s.remapper))
    (hsettable : ∀ state ∈ e.newState? a, (e.freed a).scene.store.settable state = true) :
    e.CarriesSession a := by
  have hremapper := made.remapper_closed (hleave.comp Prod.snd) hsettable
  have hsession := made.session_closed (hleave.comp Prod.fst)
  constructor
  · intro hnone
    rw [hsession, hremapper, ownRemapper?, hnone]
    exact ⟨rfl, rfl⟩
  · intro state hstate
    rw [hsession, hstate]
    rfl
  · intro state hstate hown
    rw [hremapper, ownRemapper?, hstate, Option.bind_some,
      Store.present?_eq_some_iff.mpr ⟨hown, rfl⟩]
    rfl
  · intro state hstate hown
    rw [hremapper, ownRemapper?, hstate, Option.bind_some, Store.present?_eq_none_iff.mpr hown]
    rfl

/-- A remapper that is there when an attempt begins is there all through it. -/
theorem Makes.remapper_present (made : e.Makes start total a)
    (hleave : e.Leaves a fun s => s.remapper)
    (hsettable : ∀ state ∈ e.newState? a, (e.freed a).scene.store.settable state = true)
    (h : a.opened.scene.remapper.isNull = false) :
    ∀ r ∈ a.moments, r.scene.remapper.isNull = false := by
  have hclosed : a.closed.scene.remapper.isNull = false := by
    have hafter := remapperAfter_present (e := e) [a] h
    rwa [remapperAfter, Attempt.latest_cons, Attempt.latest_nil,
      ← made.remapper_closed hleave hsettable] at hafter
  intro r hr
  simp only [Attempt.moments, List.mem_cons, List.not_mem_nil, or_false] at hr
  rcases hr with rfl | rfl | rfl | rfl | rfl
  · exact h
  · rw [hleave.announce, h]
  · rw [hleave.dispatch, hleave.announce, h]
  · rw [← hleave.report, hclosed]
  · exact hclosed

end Carrying

variable {e : Engine κ σ} {config : Config} {r : Run κ σ}

/-- The remapper that a run holds, whether or not the run comes to its end. -/
theorem Plays.remapper {row : List (Attempt κ σ)} {outcome : Except Escape Unit}
    {r' : Run κ σ} (h : e.Plays config r row outcome r')
    (hleave : ∀ a ∈ row, e.Leaves a fun s => s.remapper)
    (hsettable : ∀ a ∈ row, ∀ state ∈ e.newState? a,
      (e.freed a).scene.store.settable state = true) :
    (∀ before a after, row = before ++ a :: after →
      a.opened.scene.remapper = e.remapperAfter r.scene.remapper before) ∧
    (outcome = .ok () → r'.scene.remapper = e.remapperAfter r.scene.remapper row) := by
  obtain ⟨hopened, hend⟩ := Goes.latest (fun r => r.scene.remapper) e.ownRemapper? h
    fun a ha made => made.remapper_closed (hleave a ha) (hsettable a ha)
  -- Filling the open fields of the context leaves the session as it is.
  exact ⟨hopened, hend⟩

/-- The remapper through a run in which nobody but the engine touches the session that it is in or
puts one in place, and in which session states that are adopted let the remapper be set. New session
states may be made at any time, with a remapper of their own or without. Each attempt that adopts a
session state lets it keep the remapper it has, or else gives it that of the state before; any other
attempt leaves both. So the remapper is at any time the one that was brought along last, or the
first one; and from an attempt that begins with a remapper on, every later moment has one. -/
theorem run_carries_remapper (config : Config) (r : Run κ σ)
    (hleave : ∀ a ∈ e.attempts config r,
      e.Leaves a fun s => (s.context.requestResult, s.remapper))
    (hsettable : ∀ a ∈ e.attempts config r, ∀ state ∈ e.newState? a,
      (e.freed a).scene.store.settable state = true) :
    let row := e.attempts config r
    let last := (e.execute config r).2
    (∃ outcome, e.Plays config r row outcome last) ∧
      (∀ before a after, row = before ++ a :: after →
        e.CarriesSession a ∧
          a.opened.scene.remapper = e.remapperAfter r.scene.remapper before ∧
          (a.opened.scene.remapper.isNull = false →
            ∀ b ∈ a :: after, ∀ moment ∈ b.moments, moment.scene.remapper.isNull = false)) ∧
      ∀ result, (e.execute config r).1 = .ok result →
        last.scene.remapper = e.remapperAfter r.scene.remapper row := by
  intro row last
  obtain ⟨outcome, hplays, _⟩ := plays_attempts e config r
  have hleaveRemapper : ∀ a ∈ row, e.Leaves a fun s => s.remapper :=
    fun a ha => (hleave a ha).comp Prod.snd
  obtain ⟨hopened, _⟩ := hplays.remapper hleaveRemapper hsettable
  have made := Goes.made hplays
  refine ⟨⟨outcome, hplays⟩, ?_, ?_⟩
  · intro before a after hrow
    have hmem : a ∈ row := by simp [hrow]
    have hfirst := hopened before a after hrow
    refine ⟨(made a hmem).carriesSession (hleave a hmem) (hsettable a hmem), hfirst, ?_⟩
    intro hpresent b hb
    -- The remapper at `b` is what the attempts from `a` on have made of the one at `a`.
    obtain ⟨between, rest, hsplit⟩ := List.append_of_mem hb
    have hrow' : row = (before ++ between) ++ b :: rest := by
      rw [hrow, hsplit, List.append_assoc]
    have hbmem : b ∈ row := by simp [hrow']
    apply (made b hbmem).remapper_present (hleaveRemapper b hbmem) (hsettable b hbmem)
    rw [hopened _ b rest hrow', remapperAfter_append, ← hfirst]
    exact remapperAfter_present between hpresent
  · intro result hreturn
    obtain ⟨hends, _⟩ := plays_of_execute_eq_ok hreturn
    exact (hends.remapper hleaveRemapper hsettable).2 rfl

/-- Opens a window with a session state, which is made with some fields first if it is new. -/
structure Opener where
  session : Value
  making : Option (Handle × Entries) := none

namespace Opener

def collaborators : Collaborators Opener Unit where
  isAsync _ := false
  execute opener _ _ _ s :=
    let window : Value := .ofFields [("request_result", opener.session)]
    let opened := .ok (.result ⟨"", 0, true, 0, none, .ofFields [("newWindow", window)]⟩)
    match opener.making with
    | none => (opened, s)
    | some (h, fields) => (opened, { s with store := s.store.put h ⟨.object, fields, []⟩ })
  notify _ _ s := (.ok (), s)
  invoke _ _ _ _ s := (.ok (), s)

def engine : Engine Opener Unit := { collaborators }

/-- Session states one after another: one without a remapper, one that is made on the way and has
its own, and the first of them again; in between a window that has none. -/
def run : Run Opener Unit where
  scene :=
    { clock := 1000.0
      store :=
        { cells :=
            [(.named "first", ⟨.object, [(.text "remapper", .text "shared")], []⟩),
              (.named "second", ⟨.mapping, [], []⟩)] }
      registries :=
        ⟨⟨[("click", { session := .handle (.named "second") }), ("submit", { session := .null }),
          ("navigate",
            { session := .handle (.named "third")
              making := some (.named "third", [(.text "remapper", .text "own")]) })]⟩, []⟩
      context := { window := .text "home", requestResult := .handle (.named "first") }
      memory := () }
  trace := []

end Opener

def wanderingConfig : Config := .ofNames ["click", "submit", "navigate", "click", "submit"]

theorem wandering_run_carries_remapper :
    let row := Opener.engine.attempts wanderingConfig Opener.run
    let last := (Opener.engine.execute wanderingConfig Opener.run).2
    row.map (fun a => a.closed.scene.context.requestResult) =
        [.handle (.named "second"), .handle (.named "second"), .handle (.named "third"),
          .handle (.named "second"), .handle (.named "second")] ∧
      row.map (fun a => a.opened.scene.remapper) =
        [.text "shared", .text "shared", .text "shared", .text "own", .text "shared"] ∧
      (∀ a ∈ row, Opener.engine.CarriesSession a) ∧
      last.scene.remapper = Opener.engine.remapperAfter (.text "shared") row := by
  intro row last
  let held (r : Run Opener Unit) : Value × Value :=
    (r.scene.context.requestResult, r.scene.remapper)
  have hannounce : row.map (fun a => held a.announced) = row.map fun a => held a.opened := rfl
  have hdispatch : row.map (fun a => held a.dispatched) = row.map fun a => held a.announced := rfl
  have hrelease : row.map (fun a => held (Opener.engine.freed a)) = row.map fun a => held a.noted :=
    rfl
  have hreport : row.map (fun a => held a.closed) = row.map fun a => held a.recorded := rfl
  have hleave : ∀ a ∈ row,
      Opener.engine.Leaves a fun s => (s.context.requestResult, s.remapper) := fun a ha =>
    { announce := List.map_inj_left.mp hannounce a ha
      dispatch := List.map_inj_left.mp hdispatch a ha
      release := List.map_inj_left.mp hrelease a ha
      report := List.map_inj_left.mp hreport a ha }
  have hsettable : ∀ a ∈ row, ∀ state ∈ Opener.engine.newState? a,
      (Opener.engine.freed a).scene.store.settable state = true := by decide +kernel
  obtain ⟨result, hreturn⟩ :
      ∃ result, (Opener.engine.execute wanderingConfig Opener.run).1 = .ok result := ⟨_, rfl⟩
  obtain ⟨_, hcarries, hends⟩ := run_carries_remapper wanderingConfig Opener.run hleave hsettable
  refine ⟨rfl, rfl, ?_, hends result hreturn⟩
  intro a ha
  obtain ⟨before, after, hrow⟩ := List.append_of_mem ha
  exact (hcarries before a after hrow).1

end Engine

end Playbook
