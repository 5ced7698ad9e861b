import Playbook.Proofs.Config.Reading
import Playbook.Proofs.Store

/-!
How the open fields of a context are filled. Each field has a row of sources and takes the first of
them that holds something; null is the one thing that counts as nothing there. The code asks in
places whether a source counts as true instead. That comes to the same, because settings that
passed their check hold no timeout of zero and no empty address.
-/

namespace Playbook

variable {μ : Type} {entries : Entries} {s : Settings} {c : Context} {store : Store μ}

open Schema Schema.Check

/-! ### Settings that passed their check -/

/-- Settings that were read from the entries of some mapping. -/
def Settings.Validated (s : Settings) : Prop := ∃ entries, Settings.ofEntries entries = .pass s

theorem Field.Reads.passes_of_toOption {α : Type} {check : Value → Check α} {found : Option Value}
    {f : Field α} {a : α} (h : Field.Reads check found f) (ha : f.toOption = some a) :
    ∃ v, check v = .pass a := by
  cases h with
  | absent | null => cases ha
  | given _ passes =>
    cases ha
    exact ⟨_, passes⟩

namespace Settings

theorem Validated.timeout_pos (h : s.Validated) {n : Int} (hn : s.timeout.toOption = some n) :
    0 < n := by
  obtain ⟨entries, hentries⟩ := h
  obtain ⟨htimeout, _⟩ := ofEntries_eq_pass_iff.mp hentries
  obtain ⟨v, hpass⟩ := htimeout.passes_of_toOption hn
  obtain ⟨m, _, hrule⟩ := andThen_eq_pass_iff.mp hpass
  split at hrule <;> cases hrule
  assumption

/-- An address has a scheme at least. -/
theorem isAbsolute_empty : Url.isAbsolute "" = false := by decide

theorem Validated.baseUrl_ne_empty (h : s.Validated) {url : String}
    (hurl : s.baseUrl.toOption = some url) : url ≠ "" := by
  obtain ⟨entries, hentries⟩ := h
  obtain ⟨_, _, _, hbase, _⟩ := ofEntries_eq_pass_iff.mp hentries
  obtain ⟨v, hpass⟩ := hbase.passes_of_toOption hurl
  obtain ⟨t, _, hrule⟩ := andThen_eq_pass_iff.mp hpass
  split at hrule <;> cases hrule
  rename_i habsolute
  rintro rfl
  simp [isAbsolute_empty] at habsolute

end Settings

/-! ### Documents of settings -/

/-- Entries all of whose keys are text. -/
def Entries.TextKeyed (entries : Entries) : Prop := ∀ e ∈ entries, ∃ key, e.1 = .text key

theorem Field.textKeyed_entry {α : Type} (f : Field α) (key : String) (toValue : α → Value) :
    Entries.TextKeyed (f.entry key toValue) := by
  intro e he
  cases f with
  | absent => cases he
  | null | given =>
    obtain rfl := List.mem_singleton.mp he
    exact ⟨key, rfl⟩

theorem textKeyed_otherEntries (others : List (String × Value)) :
    Entries.TextKeyed (otherEntries others) := by
  unfold otherEntries textEntries
  induction others with
  | nil => nofun
  | cons field rest ih =>
    intro e he
    rcases List.mem_cons.mp he with rfl | hrest
    · exact ⟨field.1, rfl⟩
    · exact ih e hrest

theorem Entries.TextKeyed.append {front back : Entries} (hfront : front.TextKeyed)
    (hback : back.TextKeyed) : Entries.TextKeyed (front ++ back) :=
  fun e he => (List.mem_append.mp he).elim (hfront e) (hback e)

theorem Settings.textKeyed_entries (s : Settings) : s.entries.TextKeyed :=
  ((((s.timeout.textKeyed_entry _ _).append (s.waitForCompletion.textKeyed_entry _ _)).append
    (s.continueOnError.textKeyed_entry _ _)).append (s.baseUrl.textKeyed_entry _ _)).append
      (textKeyed_otherEntries s.others)

/-- What stands under a text key is written out with the entries around it. -/
theorem Entries.TextKeyed.getText?_mapHandles {entries : Entries} (h : entries.TextKeyed)
    (f : Handle → Value) (key : String) :
    Entries.getText? (mapHandlesEntries f entries) key =
      (entries.getText? key).map (Value.mapHandles f) := by
  induction entries with
  | nil => rfl
  | cons e rest ih =>
    obtain ⟨k, v⟩ := e
    obtain ⟨name, rfl⟩ : ∃ name, k = .text name := h _ List.mem_cons_self
    have hrest := ih fun e he => h e (List.mem_cons_of_mem _ he)
    by_cases hkey : name = key <;>
      simp [mapHandlesEntries, Value.mapHandles, Entries.getText?, hkey, hrest]

/-- The document of settings as it stands in a store. -/
def Settings.documentIn (s : Settings) (store : Store μ) : Entries :=
  mapHandlesEntries (store.content true (store.cells.length + 1)) s.entries

theorem Settings.snapshot_toDocument (s : Settings) (store : Store μ) :
    store.snapshot true s.toDocument = .map (s.documentIn store) := rfl

theorem Settings.getText?_documentIn (s : Settings) (store : Store μ) (key : String) :
    ((s.documentIn store).getText? key).getD .null =
      store.snapshot true ((s.get? key).getD .null) := by
  rw [Settings.documentIn, s.textKeyed_entries.getText?_mapHandles, Settings.get?]
  cases s.entries.getText? key <;> rfl

/-! ### The first source that holds something -/

/-- The first of some values that is not null; null when there is none. -/
def Value.leftmost : List Value → Value
  | [] => .null
  | v :: rest => if v.isNull then leftmost rest else v

theorem Context.fill_null_right (v : Value) : Context.fill v .null = v := by
  cases v <;> rfl

theorem Context.fill_of_isNull_false {v : Value} (h : v.isNull = false) (fallback : Value) :
    Context.fill v fallback = v := by
  simp [Context.fill, h]

theorem Context.fill_fill (v first second : Value)
    (h : first.isNull = true → second.isNull = true) :
    Context.fill (Context.fill v first) second = Context.fill v first := by
  by_cases hfilled : (Context.fill v first).isNull = true
  · have hfirst : first.isNull = true := by
      by_cases hv : v.isNull = true <;> simp_all [Context.fill]
    rw [Value.isNull_iff.mp (h hfirst), Context.fill_null_right]
  · exact Context.fill_of_isNull_false (by simpa using hfilled) second

/-- What settings give for a field, when there are any and the field is neither left out nor
null. -/
def Settings.given? {α : Type} (settings : Option Settings) (field : Settings → Field α) :
    Option α :=
  settings.bind fun s => (field s).toOption

/-- The document of some settings, null when there are none. -/
def Settings.document? (settings : Option Settings) (store : Store μ) : Value :=
  settings.elim .null fun s => .map (s.documentIn store)

/-- An entry of the document of some settings, null when there is none. -/
def Settings.documentEntry (settings : Option Settings) (store : Store μ) (key : String) : Value :=
  settings.elim .null fun s => ((s.documentIn store).getText? key).getD .null

namespace Context

/-- The context with each open field taken from the first of its sources that holds something. -/
def resolved (c : Context) (store : Store μ) (settings : Option Settings) : Context :=
  { c with
    baseUrl := some <|
      ((c.baseUrl.or (Settings.given? settings Settings.baseUrl)).or
        (store.windowUrl? c.window)).getD ""
    timeout := .leftmost
      [c.timeout, .ofInt? (Settings.given? settings Settings.timeout), .int 5000]
    continueOnError := .leftmost
      [c.continueOnError, .ofBool? (Settings.given? settings Settings.continueOnError), .bool false]
    settings := .leftmost [c.settings, Settings.document? settings store]
    windowPolyfills := .leftmost
      [c.windowPolyfills, Settings.documentEntry settings store "windowPolyfills"] }

/-- The context after its open fields were filled time and again. -/
def applyAll (c : Context) (rounds : List (Store μ × Option Settings)) : Context :=
  rounds.foldl (fun c round => c.applyDefaults round.1 round.2) c

end Context

theorem Store.windowUrl?_ne_empty (store : Store μ) (window : Value) :
    store.windowUrl? window ≠ some "" := by
  have hsays (v : Value) : saysText? v ≠ some "" := by
    cases v with
    | text t =>
      intro h
      unfold saysText? at h
      dsimp only at h
      split at h
      · cases h
      · rename_i hne
        exact hne (Option.some.inj h)
    | _ => nofun
  unfold windowUrl?
  split
  · rename_i url hurl
    rintro h
    exact hsays _ (hurl.trans h)
  · exact hsays _

variable {settings : Option Settings}

namespace Context

theorem timeoutFor_of_validated (hvalid : ∀ s ∈ settings, s.Validated) :
    timeoutFor settings = (Settings.given? settings Settings.timeout).getD 5000 := by
  unfold timeoutFor Settings.given?
  cases settings with
  | none => rfl
  | some s =>
    cases hgiven : s.timeout.toOption with
    | none => simp [hgiven, defaultTimeout]
    | some n =>
      have hpos := (hvalid s rfl).timeout_pos hgiven
      have hne : n ≠ 0 := by omega
      simp [hgiven, hne]

theorem defaultBaseUrl_of_validated (hvalid : ∀ s ∈ settings, s.Validated) (window : Value) :
    defaultBaseUrl store window settings =
      ((Settings.given? settings Settings.baseUrl).or (store.windowUrl? window)).getD "" := by
  unfold defaultBaseUrl Settings.given?
  cases settings with
  | none => rfl
  | some s =>
    cases hgiven : s.baseUrl.toOption with
    | none => simp [hgiven, orElseText]
    | some url => simp [hgiven, orElseText, (hvalid s rfl).baseUrl_ne_empty hgiven]

theorem leftmost_pair (v fallback : Value) : Value.leftmost [v, fallback] = fill v fallback := by
  cases fallback <;> cases v <;> rfl

theorem leftmost_ofInt? (v : Value) (x : Option Int) (n : Int) :
    Value.leftmost [v, .ofInt? x, .int n] = fill v (.int (x.getD n)) := by
  cases x <;> rfl

theorem leftmost_ofBool? (v : Value) (x : Option Bool) (b : Bool) :
    Value.leftmost [v, .ofBool? x, .bool b] = fill v (.bool (x.getD b)) := by
  cases x <;> rfl

theorem applyDefaults_settings (c : Context) (store : Store μ) (settings : Option Settings) :
    (c.applyDefaults store settings).settings =
      fill c.settings (Settings.document? settings store) := by
  cases settings with
  | none => exact (fill_null_right c.settings).symm
  | some s => rfl

theorem applyDefaults_windowPolyfills (c : Context) (store : Store μ)
    (settings : Option Settings) :
    (c.applyDefaults store settings).windowPolyfills =
      fill c.windowPolyfills (Settings.documentEntry settings store "windowPolyfills") := by
  cases settings with
  | none => exact (fill_null_right c.windowPolyfills).symm
  | some s => exact congrArg (fill c.windowPolyfills) (s.getText?_documentIn store _).symm

/-- Filling touches five fields and no other. -/
theorem applyDefaults_eq_with (c : Context) (store : Store μ) (settings : Option Settings) :
    let filled := c.applyDefaults store settings
    filled =
      { c with
        baseUrl := filled.baseUrl, timeout := filled.timeout
        continueOnError := filled.continueOnError, settings := filled.settings
        windowPolyfills := filled.windowPolyfills } := rfl

theorem applyDefaults_eq_resolved (hvalid : ∀ s ∈ settings, s.Validated) (c : Context) :
    c.applyDefaults store settings = c.resolved store settings := by
  have hbase : (c.applyDefaults store settings).baseUrl = (c.resolved store settings).baseUrl := by
    change some (c.baseUrl.getD (defaultBaseUrl store c.window settings)) = some _
    rw [defaultBaseUrl_of_validated hvalid]
    cases c.baseUrl <;> simp
  have htimeout : (c.applyDefaults store settings).timeout =
      (c.resolved store settings).timeout := by
    change fill c.timeout (.int (timeoutFor settings)) = Value.leftmost _
    rw [leftmost_ofInt?, timeoutFor_of_validated hvalid]
  have hgoOn : (c.applyDefaults store settings).continueOnError =
      (c.resolved store settings).continueOnError :=
    (leftmost_ofBool? ..).symm
  rw [applyDefaults_eq_with, hbase, htimeout, hgoOn, applyDefaults_settings,
    applyDefaults_windowPolyfills, ← leftmost_pair, ← leftmost_pair]
  rfl

/-! ### Filling fields again -/

/-- A context whose base URL, timeout and flag to go on are settled. -/
structure Settled (c : Context) : Prop where
  baseUrl : c.baseUrl.isSome = true
  timeout : c.timeout.isNull = false
  continueOnError : c.continueOnError.isNull = false

theorem isNull_fill {v fallback : Value} (h : fallback.isNull = false) :
    (fill v fallback).isNull = false := by
  unfold fill
  cases hv : v.isNull <;> simp [hv, h]

theorem settled_applyDefaults (c : Context) (store : Store μ) (settings : Option Settings) :
    (c.applyDefaults store settings).Settled :=
  ⟨rfl, isNull_fill rfl, isNull_fill rfl⟩

/-- Settled fields stay as they are. -/
theorem Settled.applyDefaults (h : c.Settled) (store : Store μ) (settings : Option Settings) :
    let again := c.applyDefaults store settings
    again.baseUrl = c.baseUrl ∧ again.timeout = c.timeout ∧
      again.continueOnError = c.continueOnError := by
  obtain ⟨url, hurl⟩ := Option.isSome_iff_exists.mp h.baseUrl
  refine ⟨?_, fill_of_isNull_false h.timeout _, fill_of_isNull_false h.continueOnError _⟩
  change some (c.baseUrl.getD _) = c.baseUrl
  rw [hurl]
  rfl

theorem Settled.applyAll (h : c.Settled) (rounds : List (Store μ × Option Settings)) :
    let again := c.applyAll rounds
    again.baseUrl = c.baseUrl ∧ again.timeout = c.timeout ∧
      again.continueOnError = c.continueOnError := by
  induction rounds generalizing c with
  | nil => exact ⟨rfl, rfl, rfl⟩
  | cons round rest ih =>
    obtain ⟨hbase, htimeout, hgoOn⟩ := h.applyDefaults round.1 round.2
    obtain ⟨hbase', htimeout', hgoOn'⟩ := ih (c.settled_applyDefaults round.1 round.2)
    exact ⟨hbase'.trans hbase, htimeout'.trans htimeout, hgoOn'.trans hgoOn⟩

/-- Only null is written out as null. -/
theorem isNull_snapshot (store : Store μ) (v : Value) :
    (store.snapshot true v).isNull = v.isNull := by
  have hcontent (depth : Nat) (h : Handle) : (store.content true depth h).isNull = false := by
    cases depth with
    | zero => rfl
    | succ depth =>
      unfold Store.content
      cases store.get? h with
      | none => rfl
      | some cell => cases h <;> cases hshape : cell.shape <;> simp [hshape, Value.isNull]
  cases v with
  | handle h => exact hcontent _ h
  | _ => rfl

/-- The same settings have nothing to add, even where objects have changed since. -/
theorem applyDefaults_again (c : Context) (store later : Store μ) (settings : Option Settings) :
    let filled := c.applyDefaults store settings
    filled.applyDefaults later settings = filled := by
  intro filled
  obtain ⟨hbase, htimeout, hgoOn⟩ :=
    (c.settled_applyDefaults store settings).applyDefaults later settings
  have hsettings : (filled.applyDefaults later settings).settings = filled.settings := by
    cases settings with
    | none => rfl
    | some s => exact fill_fill _ _ _ nofun
  have hpolyfills :
      (filled.applyDefaults later settings).windowPolyfills = filled.windowPolyfills := by
    cases settings with
    | none => rfl
    | some s => exact fill_fill _ _ _ fun h => by rwa [isNull_snapshot] at h ⊢
  rw [applyDefaults_eq_with, hbase, htimeout, hgoOn, hsettings, hpolyfills]

end Context

end Playbook
