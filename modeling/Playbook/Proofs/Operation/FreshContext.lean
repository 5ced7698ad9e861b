import Playbook.Operation
import Playbook.Proofs.Schema.Coercion

/-!
The context that a run starts from. It is described by entries, and what counts of them is what
they hold for each field: neither their order nor what they hold for the results and the start time
of earlier runs. A context object describes, by the fields of it that were set, the context that it
holds, so that a copy made of them is that context with both of these cleared.
-/

namespace Playbook

open Schema Schema.Check

namespace Context

variable {lookup : Lookup} {now : Int} {entries first second : Entries} {c : Context}

theorem spellings_eq : spellings = names.map fun name => [name] := rfl

theorem eq_of_mem_names {name : String} (h : name ∈ names) :
    name = "backend" ∨ name = "window" ∨ name = "cdp" ∨ name = "base_url" ∨ name = "timeout" ∨
      name = "continue_on_error" ∨ name = "results" ∨ name = "start_time" ∨
      name = "request_result" ∨ name = "settings" ∨ name = "window_polyfills" := by
  simpa only [names, List.mem_cons, List.not_mem_nil, or_false] using h

theorem mem_usedKeys_iff {name : String} :
    name ∈ usedKeys entries spellings ↔ name ∈ names ∧ (entries.getText? name).isSome = true := by
  rw [spellings_eq, usedKeys, List.filterMap_map, List.mem_filterMap]
  constructor
  · rintro ⟨other, hmem, hfound⟩
    cases hread : entries.getText? other with
    | none => simp [find?, hread] at hfound
    | some v =>
      obtain rfl : other = name := by simpa [find?, hread] using hfound
      exact ⟨hmem, by rw [hread]; rfl⟩
  · rintro ⟨hmem, hsome⟩
    obtain ⟨v, hread⟩ := Option.isSome_iff_exists.mp hsome
    exact ⟨name, hmem, by simp [find?, hread]⟩

/-- All keys are names of fields. -/
def Declared (entries : Entries) : Prop := ∀ e ∈ entries, ∃ name ∈ names, e.1 = .text name

theorem passed_eq_nil_iff : passed (usedKeys entries spellings) entries = [] ↔ Declared entries := by
  rw [Schema.passed_eq_nil_iff]
  refine forall₂_congr fun e he => ⟨?_, ?_⟩
  · rintro ⟨name, hused, hkey⟩
    exact ⟨name, (mem_usedKeys_iff.mp hused).1, hkey⟩
  · rintro ⟨name, hname, hkey⟩
    obtain ⟨k, v⟩ := e
    obtain rfl : k = .text name := hkey
    have hread : (entries.getText? name).isSome = true :=
      Option.isSome_iff_ne_none.mpr (Entries.getText?_ne_none_of_mem he)
    exact ⟨name, mem_usedKeys_iff.mpr ⟨hname, hread⟩, rfl⟩

/-- Two descriptions that hold the same for each field come to the same, also to the same issues. -/
theorem ofEntries_congr (hfirst : Declared first) (hsecond : Declared second)
    (h : ∀ name ∈ names, first.getText? name = second.getText? name) :
    ofEntries now lookup first = ofEntries now lookup second := by
  have hfind : ∀ name ∈ names, find? first [name] = find? second [name] := by
    intro name hname
    simp only [find?, h name hname]
  have hfield : ∀ {α : Type} (check : Value → Check α) (fallback : α), ∀ name ∈ names,
      withDefault first [name] check fallback = withDefault second [name] check fallback := by
    intro α check fallback name hname
    simp only [withDefault, whenGiven, hfind name hname]
  have hothers : refuseOthers (usedKeys first spellings) first =
      refuseOthers (usedKeys second spellings) second := by
    rw [refuseOthers_eq_pass_iff.mpr (passed_eq_nil_iff.mpr hfirst),
      refuseOthers_eq_pass_iff.mpr (passed_eq_nil_iff.mpr hsecond)]
  simp only [ofEntries, hothers, hfield _ _ "backend" (by decide),
    hfield _ _ "window" (by decide), hfield _ _ "cdp" (by decide),
    hfield _ _ "base_url" (by decide), hfield _ _ "timeout" (by decide),
    hfield _ _ "continue_on_error" (by decide), hfield _ _ "results" (by decide),
    hfield _ _ "start_time" (by decide), hfield _ _ "request_result" (by decide),
    hfield _ _ "settings" (by decide), hfield _ _ "window_polyfills" (by decide)]

/-- Entries describe a context, but for its results and its start time. -/
structure Describes (lookup : Lookup) (entries : Entries) (c : Context) : Prop where
  backend : Filled (oneOf Backend.choices) .inProcess (entries.getText? "backend") c.backend
  window : Filled anything .null (entries.getText? "window") c.window
  remote : Filled (optional (RemoteConfig.check lookup)) none (entries.getText? "cdp") c.remote
  baseUrl : Filled (optional lenientText) none (entries.getText? "base_url") c.baseUrl
  timeout : ∃ n, Filled (optional lenientInt) none (entries.getText? "timeout") n ∧
    c.timeout = orNull .int n
  continueOnError : ∃ b, Filled (optional lenientBool) none
    (entries.getText? "continue_on_error") b ∧ c.continueOnError = orNull .bool b
  requestResult : Filled anything .null (entries.getText? "request_result") c.requestResult
  settings : ∃ s, Filled (optional (mappingOf lookup)) none (entries.getText? "settings") s ∧
    c.settings = orNull .map s
  windowPolyfills : Filled anything .null (entries.getText? "window_polyfills") c.windowPolyfills
  declared : Declared entries

theorem ofEntries_eq_pass_iff :
    ofEntries now lookup entries = .pass c ↔
      Describes lookup entries c ∧
      Filled (listOf (CommandResult.check now lookup)) [] (entries.getText? "results") c.results ∧
      ∃ start, Filled (optional lenientFloat) none (entries.getText? "start_time") start ∧
        c.startTime = orNull .float start := by
  simp only [ofEntries, seq_eq_pass_iff, fmap_eq_pass_iff, withDefault_eq_pass_iff]
  constructor
  · rintro ⟨_, _, ⟨_, _, ⟨_, _, ⟨_, _, ⟨_, _, ⟨_, _, ⟨_, _, ⟨_, _, ⟨_, _, ⟨_, _, ⟨_, _,
      ⟨_, hbackend, rfl⟩, hwindow, rfl⟩, hremote, rfl⟩, hbase, rfl⟩, htimeout, rfl⟩, hgoOn, rfl⟩,
      hresults, rfl⟩, hstart, rfl⟩, hstate, rfl⟩, hsettings, rfl⟩, hpolyfills, rfl⟩, hothers, rfl⟩
    exact ⟨⟨hbackend, hwindow, hremote, hbase, ⟨_, htimeout, rfl⟩, ⟨_, hgoOn, rfl⟩, hstate,
      ⟨_, hsettings, rfl⟩, hpolyfills, passed_eq_nil_iff.mp (refuseOthers_eq_pass_iff.mp hothers)⟩,
      hresults, _, hstart, rfl⟩
  · obtain ⟨backend, window, remote, baseUrl, timeout, continueOnError, results, startTime,
      requestResult, settings, windowPolyfills⟩ := c
    rintro ⟨⟨hbackend, hwindow, hremote, hbase, ⟨_, htimeout, rfl⟩, ⟨_, hgoOn, rfl⟩, hstate,
      ⟨_, hsettings, rfl⟩, hpolyfills, hdeclared⟩, hresults, _, hstart, rfl⟩
    exact ⟨_, _, ⟨_, _, ⟨_, _, ⟨_, _, ⟨_, _, ⟨_, _, ⟨_, _, ⟨_, _, ⟨_, _, ⟨_, _, ⟨_, _,
      ⟨_, hbackend, rfl⟩, hwindow, rfl⟩, hremote, rfl⟩, hbase, rfl⟩, htimeout, rfl⟩, hgoOn, rfl⟩,
      hresults, rfl⟩, hstart, rfl⟩, hstate, rfl⟩, hsettings, rfl⟩, hpolyfills, rfl⟩,
      refuseOthers_eq_pass_iff.mpr (passed_eq_nil_iff.mpr hdeclared), rfl⟩

/-! ### Clearing -/

theorem getText?_cleared (entries : Entries) (name : String) :
    (cleared entries).getText? name =
      if name = "start_time" then some .null
      else if name = "results" then some (.list []) else entries.getText? name := by
  by_cases hstart : name = "start_time"
  · rw [hstart, if_pos rfl, cleared, Entries.getText?_insert_self]
  · rw [if_neg hstart, cleared, Entries.getText?_insert_other _ (Ne.symm hstart)]
    by_cases hresults : name = "results"
    · rw [hresults, if_pos rfl, Entries.getText?_insert_self]
    · rw [if_neg hresults, Entries.getText?_insert_other _ (Ne.symm hresults)]

theorem Declared.cleared (h : Declared entries) : Declared (cleared entries) := by
  intro e he
  rcases Entries.mem_insert he with hstart | ⟨old, hold, hsame⟩
  · exact ⟨"start_time", by decide, hstart⟩
  · rcases Entries.mem_insert hold with hresults | ⟨older, holder, hsame'⟩
    · exact ⟨"results", by decide, hsame.trans hresults⟩
    · obtain ⟨name, hname, hkey⟩ := h older holder
      exact ⟨name, hname, (hsame.trans hsame').trans hkey⟩

/-- Cleared entries describe what they described before. -/
theorem Describes.cleared (h : Describes lookup entries c) : Describes lookup (cleared entries) c where
  backend := by simpa [getText?_cleared] using h.backend
  window := by simpa [getText?_cleared] using h.window
  remote := by simpa [getText?_cleared] using h.remote
  baseUrl := by simpa [getText?_cleared] using h.baseUrl
  timeout := by simpa [getText?_cleared] using h.timeout
  continueOnError := by simpa [getText?_cleared] using h.continueOnError
  requestResult := by simpa [getText?_cleared] using h.requestResult
  settings := by simpa [getText?_cleared] using h.settings
  windowPolyfills := by simpa [getText?_cleared] using h.windowPolyfills
  declared := h.declared.cleared

/-- A context without the results and the start time of earlier runs. -/
def withoutHistory (c : Context) : Context := { c with results := [], startTime := .null }

theorem Describes.withoutHistory (h : Describes lookup entries c) :
    Describes lookup entries c.withoutHistory :=
  ⟨h.backend, h.window, h.remote, h.baseUrl, h.timeout, h.continueOnError, h.requestResult,
    h.settings, h.windowPolyfills, h.declared⟩

/-! ### Open fields -/

/-- A field that the entries do not mention holds what it holds in a context of which nothing is
said. -/
theorem Describes.lookup_unset (h : Describes lookup entries c) {name : String}
    (hname : name ∈ names) (hunset : entries.getText? name = none) :
    c.withoutHistory.fields.lookup name = ({} : Context).fields.lookup name := by
  obtain ⟨n, htimeout, hn⟩ := h.timeout
  obtain ⟨b, hgoOn, hb⟩ := h.continueOnError
  obtain ⟨s, hsettings, hs⟩ := h.settings
  rcases eq_of_mem_names hname with rfl | rfl | rfl | rfl | rfl | rfl | rfl | rfl | rfl | rfl | rfl
  · have hbackend := h.backend
    rw [hunset] at hbackend
    exact congrArg (fun b : Backend => some (Value.text b.name)) hbackend
  · have hwindow := h.window
    rw [hunset] at hwindow
    exact congrArg some hwindow
  · have hremote := h.remote
    rw [hunset] at hremote
    exact congrArg (fun o => some (orNull RemoteConfig.toRecord o)) hremote
  · have hbase := h.baseUrl
    rw [hunset] at hbase
    exact congrArg (fun o => some (Value.ofText? o)) hbase
  · rw [hunset] at htimeout
    exact congrArg some (hn.trans (congrArg (orNull Value.int) htimeout))
  · rw [hunset] at hgoOn
    exact congrArg some (hb.trans (congrArg (orNull Value.bool) hgoOn))
  · rfl
  · rfl
  · have hstate := h.requestResult
    rw [hunset] at hstate
    exact congrArg some hstate
  · rw [hunset] at hsettings
    exact congrArg some (hs.trans (congrArg (orNull Value.map) hsettings))
  · have hpolyfills := h.windowPolyfills
    rw [hunset] at hpolyfills
    exact congrArg some hpolyfills

theorem lookup_fields_withoutHistory (c : Context) {name : String} (hname : name ∈ names)
    (hresults : name ≠ "results") (hstart : name ≠ "start_time") :
    c.withoutHistory.fields.lookup name = c.fields.lookup name := by
  rcases eq_of_mem_names hname with
    rfl | rfl | rfl | rfl | rfl | rfl | rfl | rfl | rfl | rfl | rfl
  all_goals first | rfl | exact absurd rfl hresults | exact absurd rfl hstart

theorem lookup_fields_window (c : Context) (w : Value) {name : String} (hname : name ∈ names)
    (hwindow : name ≠ "window") :
    ({ c with window := w } : Context).fields.lookup name = c.fields.lookup name := by
  rcases eq_of_mem_names hname with
    rfl | rfl | rfl | rfl | rfl | rfl | rfl | rfl | rfl | rfl | rfl
  all_goals first | rfl | exact absurd rfl hwindow

theorem ofText?_inj {x y : Option String} (h : Value.ofText? x = Value.ofText? y) : x = y := by
  cases x <;> cases y <;> simp_all [Value.ofText?]

/-- A field is filled from the settings by what it holds, and by the window for want of settings. -/
theorem lookup_applyDefaults {μ : Type} (store : Store μ) (settings : Option Settings)
    {c d : Context} {name : String} (hname : name ∈ names) (hwindow : c.window = d.window)
    (h : c.fields.lookup name = d.fields.lookup name) :
    (c.applyDefaults store settings).fields.lookup name =
      (d.applyDefaults store settings).fields.lookup name := by
  rcases eq_of_mem_names hname with rfl | rfl | rfl | rfl | rfl | rfl | rfl | rfl | rfl | rfl | rfl
  · exact h
  · exact h
  · exact h
  · have hbase : c.baseUrl = d.baseUrl := ofText?_inj (Option.some.inj h)
    change some (Value.text _) = some (Value.text _)
    rw [hbase, hwindow]
  · have htimeout : c.timeout = d.timeout := Option.some.inj h
    change some (fill _ _) = some (fill _ _)
    rw [htimeout]
  · have hgoOn : c.continueOnError = d.continueOnError := Option.some.inj h
    change some (fill _ _) = some (fill _ _)
    rw [hgoOn]
  · exact h
  · exact h
  · exact h
  · have hsettings : c.settings = d.settings := Option.some.inj h
    cases settings with
    | none => exact h
    | some s => exact congrArg (fun v => some (fill v _)) hsettings
  · have hpolyfills : c.windowPolyfills = d.windowPolyfills := Option.some.inj h
    cases settings with
    | none => exact h
    | some s => exact congrArg (fun v => some (fill v _)) hpolyfills

end Context

section Fresh

open Context

variable {μ : Type} {store : Store μ} {entries first second : Entries} {c : Context}

theorem check_map (now : Int) (lookup : Lookup) (entries : Entries) :
    Context.check now lookup (.map entries) = Context.ofEntries now lookup entries := by
  have hentries : recordEntries lookup "ExecutionContext" (.map entries) = .pass entries :=
    recordEntries_eq_pass_iff.mpr rfl
  rw [Context.check, hentries, Check.andThen]

/-- The context that some entries describe is made of them, without results and start time. -/
theorem freshContext_of_describes (h : Describes store.lookup entries c) :
    freshContext store entries = .ok c.withoutHistory := by
  have hpass : Context.ofEntries 0 store.lookup (cleared entries) = .pass c.withoutHistory := by
    refine ofEntries_eq_pass_iff.mpr ⟨h.cleared.withoutHistory, ?_, none, ?_, rfl⟩
    · simp only [getText?_cleared]
      rfl
    · simp only [getText?_cleared]
      rfl
  unfold freshContext
  rw [check_map, hpass]

/-- What entries hold for the results and the start time makes no difference. -/
theorem freshContext_congr (hfirst : Declared first) (hsecond : Declared second)
    (h : ∀ name ∈ names, name ≠ "results" → name ≠ "start_time" →
      first.getText? name = second.getText? name) :
    freshContext store first = freshContext store second := by
  have hsame : Context.ofEntries 0 store.lookup (cleared first) =
      Context.ofEntries 0 store.lookup (cleared second) := by
    refine ofEntries_congr hfirst.cleared hsecond.cleared fun name hname => ?_
    rw [getText?_cleared, getText?_cleared]
    split
    · rfl
    · rename_i hstart
      split
      · rfl
      · rename_i hresults
        exact h name hname hresults hstart
  unfold freshContext
  rw [check_map, check_map, hsame]

end Fresh

namespace ContextObject

open Context

variable {lookup : Lookup} {entries : Entries} {c : Context}

theorem getText?_entries (o : ContextObject) (name : String) :
    o.entries.getText? name =
      if name ∈ o.assigned then o.content.fields.lookup name else none := by
  rw [ContextObject.entries, getText?_textEntries,
    lookup_filter (fun key => o.assigned.contains key)]
  simp only [List.contains_iff_mem]

theorem declared_entries (o : ContextObject) : Declared o.entries := by
  intro e he
  obtain ⟨field, hfield, rfl⟩ := List.mem_map.mp he
  have hnames : o.content.fields.map Prod.fst = names := rfl
  refine ⟨field.1, ?_, rfl⟩
  rw [← hnames]
  exact List.mem_map_of_mem (List.mem_of_mem_filter hfield)

/-- The object that a check makes of entries. -/
def ofChecked (entries : Entries) (c : Context) : ContextObject :=
  ⟨c, usedKeys entries Context.spellings⟩

/-- What is read off a checked object for a field: nothing, unless the entries mentioned it, and
then what the field holds. -/
theorem getText?_ofChecked {name : String} {v : Value} (hname : name ∈ names)
    (hfield : c.fields.lookup name = some v) :
    (ofChecked entries c).entries.getText? name = (entries.getText? name).map fun _ => v := by
  have hmem : name ∈ (ofChecked entries c).assigned ↔ (entries.getText? name).isSome = true :=
    mem_usedKeys_iff.trans ⟨fun h => h.2, fun h => ⟨hname, h⟩⟩
  rw [getText?_entries]
  cases hread : entries.getText? name with
  | none => rw [if_neg (by simp [hmem, hread])]; rfl
  | some w => rw [if_pos (by simp [hmem, hread])]; exact hfield

/-- The fields that were set describe the context of a checked object, as the entries did that it
was made of. -/
theorem describes_ofChecked (h : Describes lookup entries c) :
    Describes lookup (ofChecked entries c).entries c := by
  have hread {name : String} {v : Value} (hname : name ∈ names)
      (hfield : c.fields.lookup name = some v) :
      (ofChecked entries c).entries.getText? name = (entries.getText? name).map fun _ => v :=
    getText?_ofChecked hname hfield
  obtain ⟨n, htimeout, hn⟩ := h.timeout
  obtain ⟨b, hgoOn, hb⟩ := h.continueOnError
  obtain ⟨s, hsettings, hs⟩ := h.settings
  have hbase : Value.ofText? c.baseUrl = orNull .text c.baseUrl := by cases c.baseUrl <;> rfl
  constructor
  · rw [hread (by decide) rfl]
    exact h.backend.again settles_backend
  · rw [hread (by decide) rfl]
    exact h.window.again settles_anything
  · rw [hread (by decide) rfl]
    exact h.remote.again (settles_optional settles_remote fun _ => nofun)
  · rw [hread (by decide) rfl, hbase]
    exact h.baseUrl.again (settles_optional settles_lenientText fun _ => nofun)
  · rw [hread (by decide) rfl, hn]
    exact ⟨n, htimeout.again (settles_optional settles_lenientInt fun _ => nofun), rfl⟩
  · rw [hread (by decide) rfl, hb]
    exact ⟨b, hgoOn.again (settles_optional settles_lenientBool fun _ => nofun), rfl⟩
  · rw [hread (by decide) rfl]
    exact h.requestResult.again settles_anything
  · rw [hread (by decide) rfl, hs]
    exact ⟨s, hsettings.again (settles_optional settles_mappingOf fun _ => nofun), rfl⟩
  · rw [hread (by decide) rfl]
    exact h.windowPolyfills.again settles_anything
  · exact declared_entries _

end ContextObject

end Playbook
