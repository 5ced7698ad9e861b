import Playbook.Config.Load
import Playbook.Proofs.Config.Plain
import Playbook.Proofs.Schema.Spelling

/-!
What a document has to hold for settings, commands and configurations to be read from it, key by
key. Only what is found for a declared field counts, not where it stands or how its key is spelled,
and what is read can be told from the document and the other way round.
-/

namespace Playbook

open Schema Schema.Check

variable {α : Type} {entries : Entries} {keys : Spellings} {lookup : Lookup} {v : Value}
  {texts : Texts}

/-! ### Declared fields -/

/-- How a field comes out of what is found for it. -/
inductive Field.Reads (check : Value → Check α) : Option Value → Field α → Prop where
  | absent : Reads check none .absent
  | null : Reads check (some .null) .null
  | given {v : Value} {a : α} (notNull : v ≠ .null) (passes : check v = .pass a) :
      Reads check (some v) (.given a)

/-- What a document holds for a field. -/
def Field.document (toValue : α → Value) : Field α → Option Value
  | .absent => none
  | .null => some .null
  | .given a => some (toValue a)

theorem Field.entry_eq (f : Field α) (key : String) (toValue : α → Value) :
    f.entry key toValue = ((f.document toValue).map fun v => (Value.text key, v)).toList := by
  cases f <;> rfl

theorem optional_of_ne_null {check : Value → Check α} (h : v ≠ .null) :
    optional check v = (check v).map some := by
  cases v <;> first | rfl | exact absurd rfl h

theorem fieldOf_eq_pass_iff {check : Value → Check α} {f : Field α} :
    fieldOf entries keys check = .pass f ↔ Field.Reads check (found? entries keys) f := by
  rw [fieldOf, map_eq_pass_iff, whenGiven, found?]
  cases hfind : find? entries keys with
  | none =>
    constructor
    · rintro ⟨_, ⟨⟩, rfl⟩
      exact .absent
    · rintro ⟨⟩
      exact ⟨none, rfl, rfl⟩
  | some found =>
    obtain ⟨key, v⟩ := found
    simp only [map_eq_pass_iff, under_eq_pass_iff, Option.map_some]
    by_cases hnull : v = .null
    · subst hnull
      constructor
      · rintro ⟨_, ⟨_, ⟨⟩, rfl⟩, rfl⟩
        exact .null
      · rintro (_ | _ | ⟨hne, _⟩)
        · exact ⟨some none, ⟨none, rfl, rfl⟩, rfl⟩
        · exact absurd rfl hne
    · rw [optional_of_ne_null hnull]
      constructor
      · rintro ⟨_, ⟨_, hsome, rfl⟩, rfl⟩
        obtain ⟨a, hpass, rfl⟩ := map_eq_pass_iff.mp hsome
        exact .given hnull hpass
      · rintro (_ | _ | ⟨_, hpass⟩)
        · exact absurd rfl hnull
        · exact ⟨_, ⟨_, map_eq_pass_iff.mpr ⟨_, hpass, rfl⟩, rfl⟩, rfl⟩

theorem required_eq_pass_iff {check : Value → Check α} {a : α} :
    required entries keys check = .pass a ↔
      ∃ v, found? entries keys = some v ∧ check v = .pass a := by
  rw [required, found?]
  cases find? entries keys with
  | none => simp [reject, Check.under]
  | some found => simp [under_eq_pass_iff]

/-- A check that takes values as they are: what it passes stands for the very value. -/
def Exact (check : Value → Check α) (toValue : α → Value) : Prop :=
  ∀ {v a}, check v = .pass a → toValue a = v

theorem Field.Reads.document_eq {check : Value → Check α} {toValue : α → Value}
    (hexact : Exact check toValue) {found : Option Value} {f : Field α}
    (h : Field.Reads check found f) : f.document toValue = found := by
  cases h with
  | absent | null => rfl
  | given _ passes => exact congrArg some (hexact passes)

theorem Exact.andThen {check : Value → Check α} {toValue : α → Value} (hexact : Exact check toValue)
    {rule : α → Check α} (hrule : ∀ {a b}, rule a = .pass b → a = b) :
    Exact (fun v => (check v).andThen rule) toValue := by
  intro v b h
  obtain ⟨a, hpass, hb⟩ := andThen_eq_pass_iff.mp h
  rw [← hrule hb]
  exact hexact hpass

theorem eq_of_ite_pass {p : Prop} [Decidable p] {a b : α} {cause : Cause}
    (h : (if p then .pass a else reject cause : Check α) = .pass b) : a = b := by
  split at h <;> cases h
  rfl

theorem eq_of_ite_reject {p : Prop} [Decidable p] {a b : α} {cause : Cause}
    (h : (if p then reject cause else .pass a : Check α) = .pass b) : a = b := by
  split at h <;> cases h
  rfl

theorem exact_strictText : Exact strictText .text := by
  rintro v s h
  cases v <;> cases h
  rfl

theorem exact_strictBool : Exact strictBool .bool := by
  rintro v b h
  cases v <;> cases h
  rfl

theorem exact_strictInt : Exact strictInt .int := by
  rintro v n h
  cases v <;> cases h
  rfl

/-- Plain data that no field took is written out as it was. -/
theorem otherEntries_eq_passed {used : List String} {others : List (String × Value)}
    (hplain : holdPlain entries = true) (h : passed used entries = textEntries others) :
    otherEntries others = passed used entries := by
  rw [otherEntries, ← h]
  exact plainEntries_of_holdPlain
    (holdPlain_of_subset hplain fun _ he => List.mem_of_mem_filter he)

/-- Where every text can be read as a key, mappings are gone through. -/
@[simp]
theorem readingKeys_default (check : Check α) : readingKeys {} entries check = check := by
  have hnone : (entries.any fun e => Texts.stopsAt {} e.1) = false := by
    refine List.any_eq_false.mpr fun e _ => ?_
    cases e.1 <;> simp [Texts.stopsAt]
  rw [readingKeys, hnone]
  rfl

/-! ### Settings -/

namespace Settings

theorem exact_checkTimeout : Exact checkTimeout .int :=
  exact_strictInt.andThen eq_of_ite_pass

theorem exact_checkBaseUrl : Exact (checkBaseUrl ·) .text :=
  exact_strictText.andThen eq_of_ite_pass

/-- Entries are read as settings exactly when each declared field is read from what is found for
it, and the keys that are left over are those of the settings. -/
theorem ofEntries_eq_pass_iff {s : Settings} :
    ofEntries entries = .pass s ↔
      Field.Reads checkTimeout (found? entries ["timeout"]) s.timeout ∧
      Field.Reads strictBool (found? entries ["waitForCompletion", "wait_for_completion"])
        s.waitForCompletion ∧
      Field.Reads strictBool (found? entries ["continueOnError", "continue_on_error"])
        s.continueOnError ∧
      Field.Reads (checkBaseUrl ·) (found? entries ["baseUrl", "base_url"]) s.baseUrl ∧
      passed (usedKeys entries spellings) entries = textEntries s.others := by
  simp only [ofEntries, readingKeys_default, seq_eq_pass_iff, fmap_eq_pass_iff,
    fieldOf_eq_pass_iff, keepOthers_eq_pass_iff]
  constructor
  · rintro ⟨_, _, ⟨_, _, ⟨_, _, ⟨_, _, ⟨_, htimeout, rfl⟩, hwait, rfl⟩, hgoOn, rfl⟩, hbase, rfl⟩,
      hothers, rfl⟩
    exact ⟨htimeout, hwait, hgoOn, hbase, hothers⟩
  · rintro ⟨htimeout, hwait, hgoOn, hbase, hothers⟩
    exact ⟨_, _, ⟨_, _, ⟨_, _, ⟨_, _, ⟨_, htimeout, rfl⟩, hwait, rfl⟩, hgoOn, rfl⟩, hbase, rfl⟩,
      hothers, rfl⟩

theorem apart_spellings : Apart spellings :=
  ⟨by decide, by decide, by decide⟩

/-- Settings are read alike from entries and from their tidy form. -/
theorem ofEntries_tidy {s : Settings} :
    ofEntries (tidy spellings entries) = .pass s ↔ ofEntries entries = .pass s := by
  have hfound : ∀ keys ∈ spellings, found? (tidy spellings entries) keys = found? entries keys :=
    fun _ hmem => found?_tidy apart_spellings hmem
  rw [ofEntries_eq_pass_iff, ofEntries_eq_pass_iff, passed_tidy apart_spellings,
    hfound ["timeout"] (by decide),
    hfound ["waitForCompletion", "wait_for_completion"] (by decide),
    hfound ["continueOnError", "continue_on_error"] (by decide),
    hfound ["baseUrl", "base_url"] (by decide)]

/-- Written out again, settings that were read from plain data are the tidy form of it. -/
theorem entries_eq_tidy {s : Settings} (hplain : holdPlain entries = true)
    (h : ofEntries entries = .pass s) : s.entries = tidy spellings entries := by
  obtain ⟨htimeout, hwait, hgoOn, hbase, hothers⟩ := ofEntries_eq_pass_iff.mp h
  rw [Settings.entries, otherEntries_eq_passed hplain hothers, Field.entry_eq, Field.entry_eq,
    Field.entry_eq, Field.entry_eq, htimeout.document_eq exact_checkTimeout,
    hwait.document_eq exact_strictBool, hgoOn.document_eq exact_strictBool,
    hbase.document_eq exact_checkBaseUrl]
  simp [tidy, declared, spellings, preferred]

end Settings

/-! ### Commands -/

namespace Command

theorem exact_checkName : Exact checkName .text :=
  exact_strictText.andThen eq_of_ite_reject

theorem ofEntries_eq_pass_iff {c : Command} :
    ofEntries entries = .pass c ↔
      (∃ v, found? entries ["command"] = some v ∧ checkName v = .pass c.name) ∧
      Field.Reads strictText (found? entries ["description"]) c.description ∧
      passed (usedKeys entries spellings) entries = textEntries c.others := by
  simp only [ofEntries, readingKeys_default, seq_eq_pass_iff, fmap_eq_pass_iff,
    fieldOf_eq_pass_iff, keepOthers_eq_pass_iff, required_eq_pass_iff]
  constructor
  · rintro ⟨_, _, ⟨_, _, ⟨_, hname, rfl⟩, hdescription, rfl⟩, hothers, rfl⟩
    exact ⟨hname, hdescription, hothers⟩
  · rintro ⟨hname, hdescription, hothers⟩
    exact ⟨_, _, ⟨_, _, ⟨_, hname, rfl⟩, hdescription, rfl⟩, hothers, rfl⟩

theorem apart_spellings : Apart spellings :=
  ⟨by decide, by decide, by decide⟩

theorem ofEntries_tidy {c : Command} :
    ofEntries (tidy spellings entries) = .pass c ↔ ofEntries entries = .pass c := by
  have hfound : ∀ keys ∈ spellings, found? (tidy spellings entries) keys = found? entries keys :=
    fun _ hmem => found?_tidy apart_spellings hmem
  rw [ofEntries_eq_pass_iff, ofEntries_eq_pass_iff, passed_tidy apart_spellings,
    hfound ["command"] (by decide), hfound ["description"] (by decide)]

theorem entries_eq_tidy {c : Command} (hplain : holdPlain entries = true)
    (h : ofEntries entries = .pass c) : c.entries = tidy spellings entries := by
  obtain ⟨⟨v, hfound, hname⟩, hdescription, hothers⟩ := ofEntries_eq_pass_iff.mp h
  rw [Command.entries, otherEntries_eq_passed hplain hothers, Field.entry_eq,
    hdescription.document_eq exact_strictText, exact_checkName hname]
  simp [tidy, declared, spellings, preferred, hfound]

end Command

/-! ### Configurations -/

namespace Config

theorem exact_checkVersion : Exact checkVersion .text :=
  exact_strictText.andThen eq_of_ite_reject

theorem ofEntries_eq_pass_iff {c : Config} :
    ofEntries lookup entries = .pass c ↔
      (∃ v, found? entries ["version"] = some v ∧ checkVersion v = .pass c.version) ∧
      Field.Reads strictText (found? entries ["name"]) c.name ∧
      Field.Reads strictText (found? entries ["description"]) c.description ∧
      Field.Reads (Settings.check lookup ·) (found? entries ["settings"]) c.settings ∧
      ∃ v, found? entries ["commands"] = some v ∧ checkCommands lookup v = .pass c.commands := by
  simp only [ofEntries, seq_eq_pass_iff, fmap_eq_pass_iff, fieldOf_eq_pass_iff,
    required_eq_pass_iff]
  constructor
  · rintro ⟨_, _, ⟨_, _, ⟨_, _, ⟨_, _, ⟨_, hversion, rfl⟩, hname, rfl⟩, hdescription, rfl⟩,
      hsettings, rfl⟩, hcommands, rfl⟩
    exact ⟨hversion, hname, hdescription, hsettings, hcommands⟩
  · rintro ⟨hversion, hname, hdescription, hsettings, hcommands⟩
    exact ⟨_, _, ⟨_, _, ⟨_, _, ⟨_, _, ⟨_, hversion, rfl⟩, hname, rfl⟩, hdescription, rfl⟩,
      hsettings, rfl⟩, hcommands, rfl⟩

end Config

/-! ### Plain documents -/

theorem holdPlain_of_entries? (hplain : v.isPlain = true) (h : v.entries? lookup = some entries) :
    holdPlain entries = true := by
  cases v with
  | map | frozenMap =>
    cases h
    exact hplain
  | handle => cases hplain
  | _ => cases h

theorem isPlain_of_found? {key : String} (hplain : holdPlain entries = true)
    (h : found? entries [key] = some v) : v.isPlain = true := by
  rw [found?_single] at h
  exact (isPlain_of_entry hplain (Entries.mem_of_getText?_eq_some h)).2

theorem recordEntries_eq_pass_iff {type : String} :
    recordEntries lookup type v = .pass entries ↔ v.entries? lookup = some entries := by
  rw [recordEntries]
  cases v.entries? lookup <;> simp [reject]

/-- Plain data is no record, so it is read by its entries. -/
theorem Settings.check_eq_of_isPlain (hplain : v.isPlain = true) :
    Settings.check lookup v texts =
      (recordEntries lookup "Settings" v).andThen (Settings.ofEntries · texts) := by
  cases v <;> first | rfl | cases hplain

theorem Settings.check_eq_pass_iff (hplain : v.isPlain = true) {s : Settings} :
    Settings.check lookup v = .pass s ↔
      ∃ entries, v.entries? lookup = some entries ∧ Settings.ofEntries entries = .pass s := by
  simp only [Settings.check_eq_of_isPlain hplain, andThen_eq_pass_iff, recordEntries_eq_pass_iff]

theorem Command.check_eq_of_isPlain (hplain : v.isPlain = true) :
    Command.check lookup v texts =
      (recordEntries lookup "Command" v).andThen (Command.ofEntries · texts) := by
  cases v <;> first | rfl | cases hplain

theorem Command.check_eq_pass_iff (hplain : v.isPlain = true) {c : Command} :
    Command.check lookup v = .pass c ↔
      ∃ entries, v.entries? lookup = some entries ∧ Command.ofEntries entries = .pass c := by
  simp only [Command.check_eq_of_isPlain hplain, andThen_eq_pass_iff, recordEntries_eq_pass_iff]

theorem Config.check_eq_of_isPlain (hplain : v.isPlain = true) :
    Config.check lookup v texts =
      (recordEntries lookup "OperationConfig" v).andThen (Config.ofEntries lookup · texts) := by
  cases v <;> first | rfl | cases hplain

theorem Config.check_eq_pass_iff (hplain : v.isPlain = true) {c : Config} :
    Config.check lookup v = .pass c ↔
      ∃ entries, v.entries? lookup = some entries ∧ Config.ofEntries lookup entries = .pass c := by
  simp only [Config.check_eq_of_isPlain hplain, andThen_eq_pass_iff, recordEntries_eq_pass_iff]

theorem Loader.check_eq_ok_iff {c : Config} :
    Loader.check lookup v texts = .ok c ↔ Config.check lookup v texts = .pass c := by
  rw [Loader.check]
  cases Config.check lookup v texts <;> simp

/-- The schema fails in one way only. -/
theorem Loader.check_eq_error_iff {e : ConfigError} :
    Loader.check lookup v = .error e ↔
      ∃ issues, Config.check lookup v = .fail issues ∧ e = .invalid issues := by
  rw [Loader.check]
  cases Config.check lookup v <;> simp [eq_comm]

end Playbook
