import Playbook.Proofs.Config.Reading

/-!
The language of configurations. Which documents are configurations is said here without the checks,
and so is what is wrong with the others: each rule that is broken, at the place where it is. The
checks accept the documents of the language and no others, and report all that is wrong part by
part, so that no violation hides another one, save that a mapping is not looked into when one of its
keys cannot be read. Which texts are URLs and which can be read as keys is left open.
-/

namespace Playbook

open Schema Schema.Check

variable {α : Type} {entries : Entries} {keys : Spellings} {lookup : Lookup} {v : Value}
  {texts : Texts}

/-! ### Which documents are configurations -/

/-- A field that may be left out or null, and else is as it should be. -/
def Optionally (accepts : Value → Prop) (found : Option Value) : Prop :=
  ∀ v, found = some v → v = .null ∨ accepts v

def HasTextKeys (texts : Texts) (entries : Entries) : Prop :=
  ∀ e ∈ entries, ∃ s, e.1 = .text s ∧ texts.key s = true

/-- A mapping with the right entries. -/
def IsMapping (lookup : Lookup) (accepts : Entries → Prop) (v : Value) : Prop :=
  ∃ entries, v.entries? lookup = some entries ∧ accepts entries

structure Settings.Accepted (texts : Texts) (entries : Entries) : Prop where
  timeout : Optionally (fun v => ∃ n : Int, v = .int n ∧ 0 < n) (entries.getText? "timeout")
  waitForCompletion : Optionally (fun v => ∃ b, v = .bool b)
    ((entries.getText? "waitForCompletion").or (entries.getText? "wait_for_completion"))
  continueOnError : Optionally (fun v => ∃ b, v = .bool b)
    ((entries.getText? "continueOnError").or (entries.getText? "continue_on_error"))
  baseUrl : Optionally (fun v => ∃ s, v = .text s ∧ texts.url s = true)
    ((entries.getText? "baseUrl").or (entries.getText? "base_url"))
  keys : HasTextKeys texts entries

structure Command.Accepted (texts : Texts) (entries : Entries) : Prop where
  command : ∃ s, entries.getText? "command" = some (.text s) ∧ s ≠ ""
  description : Optionally (fun v => ∃ s, v = .text s) (entries.getText? "description")
  keys : HasTextKeys texts entries

structure Config.Accepted (texts : Texts) (lookup : Lookup) (entries : Entries) : Prop where
  version : ∃ s, entries.getText? "version" = some (.text s) ∧ s ≠ ""
  name : Optionally (fun v => ∃ s, v = .text s) (entries.getText? "name")
  description : Optionally (fun v => ∃ s, v = .text s) (entries.getText? "description")
  settings : Optionally (IsMapping lookup (Settings.Accepted texts)) (entries.getText? "settings")
  commands : ∃ items, entries.getText? "commands" = some (.list items) ∧ items ≠ [] ∧
    ∀ item ∈ items, IsMapping lookup (Command.Accepted texts) item

/-! ### What is wrong with a document -/

namespace Schema

def textIssues : Value → List Issue
  | .text _ => []
  | _ => [⟨[], .notText⟩]

/-- Whether a text is empty is only asked of a text. -/
def filledIssues (empty : Cause) : Value → List Issue
  | .text s => if s = "" then [⟨[], empty⟩] else []
  | _ => [⟨[], .notText⟩]

def boolIssues : Value → List Issue
  | .bool _ => []
  | _ => [⟨[], .notBoolean⟩]

def timeoutIssues : Value → List Issue
  | .int n => if 0 < n then [] else [⟨[], .timeoutNotPositive⟩]
  | _ => [⟨[], .notInteger⟩]

def baseUrlIssues (texts : Texts) : Value → List Issue
  | .text s => if texts.url s then [] else [⟨[], .badBaseUrl⟩]
  | _ => [⟨[], .notText⟩]

def mappingIssues (lookup : Lookup) (type : String) (rule : Entries → List Issue) (v : Value) :
    List Issue :=
  match v.entries? lookup with
  | some entries => rule entries
  | none => [⟨[], .notRecord type⟩]

/-- The issues of a mapping. A key that cannot be read is the only one. -/
def keyedIssues (texts : Texts) (entries : Entries) (issues : List Issue) : List Issue :=
  if entries.any fun e => texts.stopsAt e.1 then [⟨[], .notUtf8⟩] else issues

/-- The issues of a field that has to be there, under the spelling it is found in. -/
def requiredIssues (entries : Entries) (keys : Spellings) (rule : Value → List Issue) :
    List Issue :=
  match find? entries keys with
  | some (key, v) => (rule v).map (Issue.under (.key key))
  | none => [⟨[.key (preferred keys)], .missing⟩]

/-- The issues of a field that may be left out or null. -/
def optionalIssues (entries : Entries) (keys : Spellings) (rule : Value → List Issue) :
    List Issue :=
  match find? entries keys with
  | some (_, .null) | none => []
  | some (key, v) => (rule v).map (Issue.under (.key key))

end Schema

def Settings.issues (texts : Texts) (entries : Entries) : List Issue :=
  keyedIssues texts entries
    (optionalIssues entries ["timeout"] timeoutIssues ++
      optionalIssues entries ["waitForCompletion", "wait_for_completion"] boolIssues ++
      optionalIssues entries ["continueOnError", "continue_on_error"] boolIssues ++
      optionalIssues entries ["baseUrl", "base_url"] (baseUrlIssues texts) ++
      keyIssues entries)

def Command.issues (texts : Texts) (entries : Entries) : List Issue :=
  keyedIssues texts entries
    (requiredIssues entries ["command"] (filledIssues .emptyCommand) ++
      optionalIssues entries ["description"] textIssues ++
      keyIssues entries)

/-- Commands are items of a list. An empty one breaks no rule of its items, so that it is empty is
an issue of the list. -/
def Config.commandsIssues (texts : Texts) (lookup : Lookup) : Value → List Issue
  | .list [] => [⟨[], .noCommands⟩]
  | .list items => rowIssues (mappingIssues lookup "Command" (Command.issues texts)) 0 items
  | _ => [⟨[], .notList⟩]

def Config.issues (texts : Texts) (lookup : Lookup) (entries : Entries) : List Issue :=
  requiredIssues entries ["version"] (filledIssues .emptyVersion) ++
    optionalIssues entries ["name"] textIssues ++
    optionalIssues entries ["description"] textIssues ++
    optionalIssues entries ["settings"] (mappingIssues lookup "Settings" (Settings.issues texts)) ++
    requiredIssues entries ["commands"] (Config.commandsIssues texts lookup)

/-! ### Nothing is wrong with the documents of the language -/

theorem textIssues_eq_nil_iff : textIssues v = [] ↔ ∃ s, v = .text s := by
  cases v <;> simp [textIssues]

theorem filledIssues_eq_nil_iff {empty : Cause} :
    filledIssues empty v = [] ↔ ∃ s, v = .text s ∧ s ≠ "" := by
  cases v <;> simp [filledIssues]

theorem boolIssues_eq_nil_iff : boolIssues v = [] ↔ ∃ b, v = .bool b := by
  cases v <;> simp [boolIssues]

theorem timeoutIssues_eq_nil_iff : timeoutIssues v = [] ↔ ∃ n : Int, v = .int n ∧ 0 < n := by
  cases v <;> simp [timeoutIssues]

theorem baseUrlIssues_eq_nil_iff :
    baseUrlIssues texts v = [] ↔ ∃ s, v = .text s ∧ texts.url s = true := by
  cases v <;> simp [baseUrlIssues]

/-- The keys of a mapping are as they should be when none cannot be read and none is no text. -/
theorem keyIssues_eq_nil_iff :
    (¬ (entries.any fun e => texts.stopsAt e.1) = true) ∧ keyIssues entries = [] ↔
      HasTextKeys texts entries := by
  rw [keyIssues, List.filterMap_eq_nil_iff, Bool.not_eq_true, List.any_eq_false,
    ← forall₂_and]
  refine forall₂_congr fun e _ => ?_
  cases e.1 <;> simp [Texts.stopsAt]

theorem keyedIssues_eq_nil_iff {issues : List Issue} :
    keyedIssues texts entries (issues ++ keyIssues entries) = [] ↔
      issues = [] ∧ HasTextKeys texts entries := by
  rw [← keyIssues_eq_nil_iff, keyedIssues]
  split <;> simp [*]

theorem mappingIssues_eq_nil_iff {type : String} {rule : Entries → List Issue}
    {accepts : Entries → Prop} (hrule : ∀ entries, rule entries = [] ↔ accepts entries) :
    mappingIssues lookup type rule v = [] ↔ IsMapping lookup accepts v := by
  rw [mappingIssues, IsMapping]
  cases v.entries? lookup <;> simp [hrule]

theorem rowIssues_eq_nil_iff {rule : Value → List Issue} {i : Nat} {row : List Value} :
    rowIssues rule i row = [] ↔ ∀ v ∈ row, rule v = [] := by
  induction row generalizing i with
  | nil => simp [rowIssues]
  | cons v rest ih =>
    have hcons : rowIssues rule i (v :: rest) =
        (rule v).map (Issue.under (.index i)) ++ rowIssues rule (i + 1) rest := by
      simp [rowIssues, List.zipIdx_cons]
    simp [hcons, ih]

theorem requiredIssues_eq_nil_iff {rule : Value → List Issue} :
    requiredIssues entries keys rule = [] ↔ ∃ v, found? entries keys = some v ∧ rule v = [] := by
  rw [requiredIssues, found?]
  cases find? entries keys <;> simp

theorem optionalIssues_eq_nil_iff {rule : Value → List Issue} :
    optionalIssues entries keys rule = [] ↔
      Optionally (fun v => rule v = []) (found? entries keys) := by
  rw [optionalIssues, found?, Optionally]
  cases find? entries keys with
  | none => simp
  | some found =>
    obtain ⟨key, v⟩ := found
    cases v <;> simp

theorem Settings.issues_eq_nil_iff :
    Settings.issues texts entries = [] ↔ Settings.Accepted texts entries := by
  simp only [Settings.issues, keyedIssues_eq_nil_iff, List.append_eq_nil_iff,
    optionalIssues_eq_nil_iff, timeoutIssues_eq_nil_iff, boolIssues_eq_nil_iff,
    baseUrlIssues_eq_nil_iff, found?_single, found?_pair]
  constructor
  · rintro ⟨⟨⟨⟨htimeout, hwait⟩, hgoOn⟩, hbase⟩, hkeys⟩
    exact ⟨htimeout, hwait, hgoOn, hbase, hkeys⟩
  · rintro ⟨htimeout, hwait, hgoOn, hbase, hkeys⟩
    exact ⟨⟨⟨⟨htimeout, hwait⟩, hgoOn⟩, hbase⟩, hkeys⟩

theorem Command.issues_eq_nil_iff :
    Command.issues texts entries = [] ↔ Command.Accepted texts entries := by
  simp only [Command.issues, keyedIssues_eq_nil_iff, List.append_eq_nil_iff,
    requiredIssues_eq_nil_iff, optionalIssues_eq_nil_iff, filledIssues_eq_nil_iff,
    textIssues_eq_nil_iff, found?_single]
  constructor
  · rintro ⟨⟨⟨_, hfound, s, rfl, hs⟩, hdescription⟩, hkeys⟩
    exact ⟨⟨s, hfound, hs⟩, hdescription, hkeys⟩
  · rintro ⟨⟨s, hfound, hs⟩, hdescription, hkeys⟩
    exact ⟨⟨⟨_, hfound, s, rfl, hs⟩, hdescription⟩, hkeys⟩

theorem Config.commandsIssues_eq_nil_iff :
    Config.commandsIssues texts lookup v = [] ↔ ∃ items, v = .list items ∧ items ≠ [] ∧
      ∀ item ∈ items, IsMapping lookup (Command.Accepted texts) item := by
  cases v with
  | list items =>
    cases items with
    | nil => simp [Config.commandsIssues]
    | cons first rest =>
      have hitems : Config.commandsIssues texts lookup (.list (first :: rest)) = [] ↔
          ∀ item ∈ first :: rest, IsMapping lookup (Command.Accepted texts) item := by
        simp only [Config.commandsIssues, rowIssues_eq_nil_iff,
          mappingIssues_eq_nil_iff fun _ => Command.issues_eq_nil_iff]
      simp [hitems]
  | _ => simp [Config.commandsIssues]

theorem Config.issues_eq_nil_iff :
    Config.issues texts lookup entries = [] ↔ Config.Accepted texts lookup entries := by
  simp only [Config.issues, List.append_eq_nil_iff, requiredIssues_eq_nil_iff,
    optionalIssues_eq_nil_iff, filledIssues_eq_nil_iff, textIssues_eq_nil_iff,
    mappingIssues_eq_nil_iff fun _ => Settings.issues_eq_nil_iff,
    Config.commandsIssues_eq_nil_iff, found?_single]
  constructor
  · rintro ⟨⟨⟨⟨⟨_, hfound, s, rfl, hs⟩, hname⟩, hdescription⟩, hsettings⟩,
      _, hcommands, items, rfl, hsome, hitems⟩
    exact ⟨⟨s, hfound, hs⟩, hname, hdescription, hsettings, items, hcommands, hsome, hitems⟩
  · rintro ⟨⟨s, hfound, hs⟩, hname, hdescription, hsettings, items, hcommands, hsome, hitems⟩
    exact ⟨⟨⟨⟨⟨_, hfound, s, rfl, hs⟩, hname⟩, hdescription⟩, hsettings⟩,
      _, hcommands, items, rfl, hsome, hitems⟩

/-! ### The checks report what is wrong -/

theorem strictText_reports (v : Value) : (strictText v).Reports (textIssues v) := by
  cases v with
  | text s => rfl
  | _ => exact reports_reject .notText

theorem strictBool_reports (v : Value) : (strictBool v).Reports (boolIssues v) := by
  cases v with
  | bool b => rfl
  | _ => exact reports_reject .notBoolean

theorem filled_reports (empty : Cause) (v : Value) :
    ((strictText v).andThen fun s => if s = "" then reject empty else .pass s).Reports
      (filledIssues empty v) := by
  cases v with
  | text s =>
    by_cases hs : s = ""
    · simpa [strictText, Check.andThen, filledIssues, hs] using reports_reject empty
    · simp [strictText, Check.andThen, filledIssues, hs, Reports]
  | _ => exact reports_reject .notText

theorem checkTimeout_reports (v : Value) :
    (Settings.checkTimeout v).Reports (timeoutIssues v) := by
  cases v with
  | int n =>
    by_cases hn : 0 < n
    · simp [Settings.checkTimeout, strictInt, Check.andThen, timeoutIssues, hn, Reports]
    · simpa [Settings.checkTimeout, strictInt, Check.andThen, timeoutIssues, hn] using
        reports_reject .timeoutNotPositive
  | _ => exact reports_reject .notInteger

theorem checkBaseUrl_reports (v : Value) :
    (Settings.checkBaseUrl v texts).Reports (baseUrlIssues texts v) := by
  cases v with
  | text s =>
    by_cases hs : texts.url s = true
    · simp [Settings.checkBaseUrl, strictText, Check.andThen, baseUrlIssues, hs, Reports]
    · simpa [Settings.checkBaseUrl, strictText, Check.andThen, baseUrlIssues, hs] using
        reports_reject .badBaseUrl
  | _ => exact reports_reject .notText

theorem required_reports {check : Value → Check α} {rule : Value → List Issue}
    (hcheck : ∀ v, found? entries keys = some v → (check v).Reports (rule v)) :
    (required entries keys check).Reports (requiredIssues entries keys rule) := by
  rw [required, requiredIssues]
  cases hfind : find? entries keys with
  | none => exact (reports_reject .missing).under _
  | some found => exact (hcheck found.2 (by simp [found?, hfind])).under _

theorem fieldOf_reports {check : Value → Check α} {rule : Value → List Issue}
    (hcheck : ∀ v, found? entries keys = some v → (check v).Reports (rule v)) :
    (fieldOf entries keys check).Reports (optionalIssues entries keys rule) := by
  rw [fieldOf, whenGiven, optionalIssues]
  cases hfind : find? entries keys with
  | none => rfl
  | some found =>
    obtain ⟨key, v⟩ := found
    have hv := hcheck v (by simp [found?, hfind])
    cases v with
    | null => rfl
    | _ => exact (((hv.map some).under _).map some).map _

theorem readingKeys_reports {check : Check α} {issues : List Issue} (hcheck : check.Reports issues) :
    (readingKeys texts entries check).Reports (keyedIssues texts entries issues) := by
  unfold readingKeys keyedIssues
  split
  · exact reports_reject .notUtf8
  · exact hcheck

theorem Settings.ofEntries_reports (entries : Entries) :
    (Settings.ofEntries entries texts).Reports (Settings.issues texts entries) := by
  have htimeout : (fieldOf entries ["timeout"] checkTimeout).Reports _ :=
    fieldOf_reports fun v _ => checkTimeout_reports v
  have hflag (keys : Spellings) : (fieldOf entries keys strictBool).Reports _ :=
    fieldOf_reports fun v _ => strictBool_reports v
  have hbase : (fieldOf entries ["baseUrl", "base_url"] (checkBaseUrl · texts)).Reports _ :=
    fieldOf_reports fun v _ => checkBaseUrl_reports v
  have hkeys := keepOthers_reports (usedKeys entries spellings) entries
  exact readingKeys_reports
    (((((htimeout.fmap Settings.mk).seq (hflag _)).seq (hflag _)).seq hbase).seq hkeys)

theorem Command.ofEntries_reports (entries : Entries) :
    (Command.ofEntries entries texts).Reports (Command.issues texts entries) := by
  have hname : (required entries ["command"] checkName).Reports _ :=
    required_reports fun v _ => filled_reports .emptyCommand v
  have hdescription : (fieldOf entries ["description"] strictText).Reports _ :=
    fieldOf_reports fun v _ => strictText_reports v
  have hkeys := keepOthers_reports (usedKeys entries spellings) entries
  exact readingKeys_reports (((hname.fmap Command.mk).seq hdescription).seq hkeys)

theorem recordEntries_andThen_reports {type : String} {ofEntries : Entries → Check α}
    {rule : Entries → List Issue}
    (hrule : ∀ entries, v.entries? lookup = some entries → (ofEntries entries).Reports (rule entries)) :
    ((recordEntries lookup type v).andThen ofEntries).Reports
      (mappingIssues lookup type rule v) := by
  rw [recordEntries, mappingIssues]
  cases hentries : v.entries? lookup with
  | none => exact reports_reject (.notRecord type)
  | some entries => exact hrule entries hentries

theorem Settings.check_reports (hplain : v.isPlain = true) :
    (Settings.check lookup v texts).Reports
      (mappingIssues lookup "Settings" (Settings.issues texts) v) := by
  rw [Settings.check_eq_of_isPlain hplain]
  exact recordEntries_andThen_reports fun entries _ => Settings.ofEntries_reports entries

theorem Command.check_reports (hplain : v.isPlain = true) :
    (Command.check lookup v texts).Reports
      (mappingIssues lookup "Command" (Command.issues texts) v) := by
  rw [Command.check_eq_of_isPlain hplain]
  exact recordEntries_andThen_reports fun entries _ => Command.ofEntries_reports entries

theorem Config.checkCommands_reports (hplain : v.isPlain = true) :
    (Config.checkCommands lookup v texts).Reports (Config.commandsIssues texts lookup v) := by
  cases v with
  | list items =>
    have hrow : (Check.items (Command.check lookup · texts) 0 items).Reports
        (rowIssues (mappingIssues lookup "Command" (Command.issues texts)) 0 items) :=
      reports_items (fun item hmem => Command.check_reports (isPlain_of_mem hplain hmem)) 0
    cases items with
    | nil => exact reports_reject .noCommands
    | cons first rest =>
      cases hcheck : Check.items (Command.check lookup · texts) 0 (first :: rest) with
      | fail found =>
        rw [hcheck] at hrow
        simpa [Config.checkCommands, Config.commandsIssues, listOf, hcheck, Check.andThen] using hrow
      | pass commands =>
        -- As many commands pass as there are items, so the rule on their number is met.
        have hsome : commands.isEmpty = false := by
          cases items_eq_pass_iff.mp hcheck
          rfl
        rw [hcheck] at hrow
        simpa [Config.checkCommands, Config.commandsIssues, listOf, hcheck, Check.andThen, hsome]
          using hrow
  | tuple | set => cases hplain
  | _ => exact reports_reject .notList

theorem Config.ofEntries_reports (hplain : holdPlain entries = true) :
    (Config.ofEntries lookup entries texts).Reports (Config.issues texts lookup entries) := by
  have hversion : (required entries ["version"] checkVersion).Reports _ :=
    required_reports fun v _ => filled_reports .emptyVersion v
  have htext (keys : Spellings) : (fieldOf entries keys strictText).Reports _ :=
    fieldOf_reports fun v _ => strictText_reports v
  have hsettings : (fieldOf entries ["settings"] (Settings.check lookup · texts)).Reports _ :=
    fieldOf_reports fun v hfound => Settings.check_reports (isPlain_of_found? hplain hfound)
  have hcommands : (required entries ["commands"] (checkCommands lookup · texts)).Reports _ :=
    required_reports fun v hfound => checkCommands_reports (isPlain_of_found? hplain hfound)
  exact ((((hversion.fmap Config.mk).seq (htext _)).seq (htext _)).seq hsettings).seq hcommands

theorem Config.check_reports (hplain : v.isPlain = true) :
    (Config.check lookup v texts).Reports
      (mappingIssues lookup "OperationConfig" (Config.issues texts lookup) v) := by
  rw [Config.check_eq_of_isPlain hplain]
  exact recordEntries_andThen_reports fun entries hentries =>
    Config.ofEntries_reports (holdPlain_of_entries? hplain hentries)

/-- The schema decides its language, whatever texts the library for checks takes for URLs and can
read as keys. A plain value is accepted exactly when it is a mapping of the language; any other one
is refused with all that is wrong with it: for a mapping the issues of its parts, in the order in
which they are declared, and else that it is none. -/
theorem schema_decides_language (texts : Texts) (hplain : v.isPlain = true) :
    ((∃ c, Loader.check lookup v texts = .ok c) ↔
        IsMapping lookup (Config.Accepted texts lookup) v) ∧
      (¬ IsMapping lookup (Config.Accepted texts lookup) v → ∃ issues, issues ≠ [] ∧
        Loader.check lookup v texts = .error (.invalid issues) ∧
        (v.entries? lookup = none → issues = [⟨[], .notRecord "OperationConfig"⟩]) ∧
        ∀ entries, v.entries? lookup = some entries → issues =
          requiredIssues entries ["version"] (filledIssues .emptyVersion) ++
          optionalIssues entries ["name"] textIssues ++
          optionalIssues entries ["description"] textIssues ++
          optionalIssues entries ["settings"]
            (mappingIssues lookup "Settings" (Settings.issues texts)) ++
          requiredIssues entries ["commands"] (Config.commandsIssues texts lookup)) := by
  have hreports : (Config.check lookup v texts).Reports _ := Config.check_reports hplain
  have hnil : mappingIssues lookup "OperationConfig" (Config.issues texts lookup) v = [] ↔
      IsMapping lookup (Config.Accepted texts lookup) v :=
    mappingIssues_eq_nil_iff fun _ => Config.issues_eq_nil_iff
  constructor
  · simp only [Loader.check_eq_ok_iff, hreports.passes_iff, hnil]
  · intro hrefused
    have hsome := mt hnil.mp hrefused
    refine ⟨_, hsome, ?_, ?_, ?_⟩
    · rw [Loader.check, hreports.eq_fail hsome]
    · intro hnone
      rw [mappingIssues, hnone]
    · intro entries hentries
      rw [mappingIssues, hentries]
      rfl

/-- A document that breaks rules in each of its parts. -/
def brokenDocument : Value :=
  .map
    [(.text "name", .bool true),
      (.text "commands", .list
        [.ofFields [("command", .text ""), ("description", .int 3)],
          .ofFields [("command", .text "click")],
          .text "wait"]),
      (.text "settings", .map
        [(.text "timeout", .bool true), (.int 5, .null), (.text "baseUrl", .null),
          (.text "wait_for_completion", .text "yes")])]

theorem broken_document_is_refused :
    brokenDocument.isPlain = true ∧
      ¬ IsMapping .none (Config.Accepted {} .none) brokenDocument ∧
      Loader.check .none brokenDocument = .error (.invalid
        [⟨[.key "version"], .missing⟩,
          ⟨[.key "name"], .notText⟩,
          ⟨[.key "settings", .key "timeout"], .notInteger⟩,
          ⟨[.key "settings", .key "wait_for_completion"], .notBoolean⟩,
          ⟨[.key "settings", .key "5"], .keyNotText⟩,
          ⟨[.key "commands", .index 0, .key "command"], .emptyCommand⟩,
          ⟨[.key "commands", .index 0, .key "description"], .notText⟩,
          ⟨[.key "commands", .index 2], .notRecord "Command"⟩]) := by
  have hplain : brokenDocument.isPlain = true := rfl
  have hrefused : ¬ IsMapping .none (Config.Accepted {} .none) brokenDocument := by
    rintro ⟨_, ⟨⟩, haccepted⟩
    obtain ⟨_, hversion, _⟩ := haccepted.version
    cases hversion
  obtain ⟨issues, _, herror, _, hissues⟩ :=
    (schema_decides_language {} hplain).2 hrefused
  refine ⟨hplain, hrefused, ?_⟩
  rw [herror, hissues _ rfl]
  rfl

end Playbook
