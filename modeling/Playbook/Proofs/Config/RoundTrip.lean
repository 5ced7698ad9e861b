import Playbook.Proofs.Config.Reading

/-!
Configurations and their documents. The document of a configuration that was read from plain data
is read as the same configuration again, and so is the configuration itself where one is expected.
Documents differ from what they were read from in spelling and order only: declared keys come first
and are spelled as the schema prefers, and the keys passed through follow as they were.
-/

namespace Playbook

open Schema Schema.Check

variable {α : Type} {entries : Entries} {lookup : Lookup} {v : Value}

/-! ### Records -/

/-- A field of a record is the one that it was made of. -/
theorem Field.ofSlots_eq (f : Field α) {slots : List (Slot × Value)} {name key : String}
    {read : Value → Option α} {toValue : α → Value}
    (hfind : slots.find? (fun e => e.1.name == name) = some (f.slot name key toValue))
    (hread : ∀ a, read (toValue a) = some a) (hnull : read .null = none) :
    Field.ofSlots slots name read = f := by
  rw [Field.ofSlots, hfind]
  cases f <;> simp [Field.slot, Field.isPresent, Field.value, hread, hnull]

theorem otherSlots_slot_cons (f : Field α) (name key : String) (toValue : α → Value)
    (rest : List (Slot × Value)) :
    otherSlots (f.slot name key toValue :: rest) = otherSlots rest := by
  cases f <;> simp [otherSlots, Field.slot, Field.isPresent]

theorem otherSlots_extraSlots (others : List (String × Value)) :
    otherSlots (extraSlots others) = others := by
  simp [otherSlots, extraSlots, List.filterMap_map]

def Settings.slots (s : Settings) : List (Slot × Value) :=
  s.timeout.slot "timeout" "timeout" .int
    :: s.waitForCompletion.slot "wait_for_completion" "waitForCompletion" .bool
    :: s.continueOnError.slot "continue_on_error" "continueOnError" .bool
    :: s.baseUrl.slot "base_url" "baseUrl" .text
    :: extraSlots s.others

theorem Settings.ofSlots_slots (s : Settings) : Settings.ofSlots s.slots = s := by
  have hothers : otherSlots s.slots = s.others := by
    rw [slots, otherSlots_slot_cons, otherSlots_slot_cons, otherSlots_slot_cons,
      otherSlots_slot_cons, otherSlots_extraSlots]
  rw [Settings.ofSlots, hothers,
    Field.ofSlots_eq s.timeout rfl (fun _ => rfl) rfl,
    Field.ofSlots_eq s.waitForCompletion rfl (fun _ => rfl) rfl,
    Field.ofSlots_eq s.continueOnError rfl (fun _ => rfl) rfl,
    Field.ofSlots_eq s.baseUrl rfl (fun _ => rfl) rfl]

def Command.slots (c : Command) : List (Slot × Value) :=
  (⟨"command", "command", .given⟩, .text c.name)
    :: c.description.slot "description" "description" .text
    :: extraSlots c.others

theorem Command.ofSlots_slots (c : Command) : Command.ofSlots c.slots = c := by
  have hothers : otherSlots c.slots = c.others := by
    change otherSlots (c.description.slot "description" "description" .text :: _) = _
    rw [otherSlots_slot_cons, otherSlots_extraSlots]
  rw [Command.ofSlots, hothers, Field.ofSlots_eq c.description rfl (fun _ => rfl) rfl]
  rfl

theorem filterMap_map_eq_self {read : Value → Option α} {toRecord : α → Value}
    (hread : ∀ a, read (toRecord a) = some a) (row : List α) :
    (row.map toRecord).filterMap read = row := by
  rw [List.filterMap_map]
  exact (List.filterMap_congr fun a _ => hread a).trans List.filterMap_some

/-- Where a configuration is expected, a configuration is taken as it is. -/
theorem Config.check_toRecord (c : Config) : Config.check lookup c.toRecord = .pass c := by
  change Check.pass (Config.ofSlots _) = _
  rw [Config.ofSlots,
    Field.ofSlots_eq c.name rfl (fun _ => rfl) rfl,
    Field.ofSlots_eq c.description rfl (fun _ => rfl) rfl,
    Field.ofSlots_eq c.settings rfl (fun s => congrArg some s.ofSlots_slots) rfl]
  refine congrArg Check.pass
    (congrArg (Config.mk c.version c.name c.description c.settings) ?_)
  exact filterMap_map_eq_self (fun d : Command => congrArg some d.ofSlots_slots) c.commands

/-! ### Documents -/

/-- What stands under a key of a mapping. -/
def Value.part? (lookup : Lookup) (v : Value) (key : String) : Option Value :=
  (v.entries? lookup).bind fun entries => entries.getText? key

/-- Of a record that is read from the entries of a mapping whether they are tidy or not, and that is
written out in the tidy form of what it was read from, the document is read as the same record. -/
theorem check_tidyDocument {ρ : Type} (check : Value → Check ρ) (ofEntries : Entries → Check ρ)
    {written : ρ → Entries} {fields : List Spellings} {r : ρ}
    (hmap : ∀ entries, check (.map entries) = ofEntries entries)
    (htidy : ∀ entries, ofEntries (tidy fields entries) = .pass r ↔ ofEntries entries = .pass r)
    (hwritten : ∀ entries, holdPlain entries = true → ofEntries entries = .pass r →
      written r = tidy fields entries)
    (hplain : v.isPlain = true)
    (hread : ∃ source, v.entries? lookup = some source ∧ ofEntries source = .pass r) :
    (∃ source, v.entries? lookup = some source ∧
        Value.map (written r) = .map (tidy fields source)) ∧
      check (.map (written r)) = .pass r := by
  obtain ⟨source, hsource, hpass⟩ := hread
  have hform : written r = tidy fields source :=
    hwritten source (holdPlain_of_entries? hplain hsource) hpass
  refine ⟨⟨source, hsource, congrArg Value.map hform⟩, ?_⟩
  rw [hmap, hform]
  exact (htidy source).mpr hpass

/-- The document of settings is the tidy form of what they were read from, and is read as the same
settings. -/
theorem Settings.check_toDocument {s : Settings} (hplain : v.isPlain = true)
    (h : Settings.check lookup v = .pass s) :
    (∃ source, v.entries? lookup = some source ∧
        s.toDocument = .map (tidy Settings.spellings source)) ∧
      Settings.check lookup s.toDocument = .pass s :=
  check_tidyDocument (Settings.check lookup ·) (Settings.ofEntries ·) (fun _ => rfl)
    (fun _ => Settings.ofEntries_tidy) (fun _ => Settings.entries_eq_tidy) hplain
    ((Settings.check_eq_pass_iff hplain).mp h)

theorem Command.check_toDocument {c : Command} (hplain : v.isPlain = true)
    (h : Command.check lookup v = .pass c) :
    (∃ source, v.entries? lookup = some source ∧
        c.toDocument = .map (tidy Command.spellings source)) ∧
      Command.check lookup c.toDocument = .pass c :=
  check_tidyDocument (Command.check lookup ·) (Command.ofEntries ·) (fun _ => rfl)
    (fun _ => Command.ofEntries_tidy) (fun _ => Command.entries_eq_tidy) hplain
    ((Command.check_eq_pass_iff hplain).mp h)

/-- Commands are read from a list, one from each item, and there is one at least. -/
theorem Config.checkCommands_list_iff {items : List Value} {commands : List Command} :
    Config.checkCommands lookup (.list items) = .pass commands ↔
      List.Forall₂ (fun item c => Command.check lookup item = .pass c) items commands ∧
        commands ≠ [] := by
  simp only [Config.checkCommands, listOf, andThen_eq_pass_iff, items_eq_pass_iff]
  constructor
  · rintro ⟨found, hitems, hrule⟩
    split at hrule
    · cases hrule
    · rename_i hsome
      obtain rfl := Check.pass.inj hrule
      exact ⟨hitems, by simpa using hsome⟩
  · rintro ⟨hitems, hsome⟩
    exact ⟨commands, hitems, by simp [hsome]⟩

theorem Config.eq_list_of_checkCommands (hplain : v.isPlain = true) {commands : List Command}
    (h : Config.checkCommands lookup v = .pass commands) : ∃ items, v = .list items := by
  cases v with
  | list items => exact ⟨items, rfl⟩
  | tuple | set => cases hplain
  | _ => simp [Config.checkCommands, listOf, reject, Check.andThen] at h

/-- The documents of commands that were read from plain items are the tidy forms of these, and are
read as the same commands. -/
theorem Config.checkCommands_toDocument {items : List Value} (hplain : arePlain items = true)
    {commands : List Command} (h : Config.checkCommands lookup (.list items) = .pass commands) :
    List.Forall₂ (fun item c => ∃ source, item.entries? lookup = some source ∧
        c.toDocument = .map (tidy Command.spellings source)) items commands ∧
      Config.checkCommands lookup (.list (commands.map Command.toDocument)) = .pass commands := by
  obtain ⟨hitems, hsome⟩ := Config.checkCommands_list_iff.mp h
  have hread : List.Forall₂ (fun item c => item.isPlain = true ∧
      Command.check lookup item = .pass c) items commands :=
    (List.forall₂_and_left _ _).mpr ⟨fun _ hmem => isPlain_of_mem hplain hmem, hitems⟩
  refine ⟨hread.imp fun _ _ h => (Command.check_toDocument h.1 h.2).1, ?_⟩
  refine Config.checkCommands_list_iff.mpr ⟨List.forall₂_map_left_iff.mpr ?_, hsome⟩
  clear h hitems hsome hplain
  induction hread with
  | nil => exact .nil
  | cons head _ ih => exact .cons (Command.check_toDocument head.1 head.2).2 ih

theorem Field.getText?_entry (f : Field α) (key name : String) (toValue : α → Value) :
    (f.entry key toValue).getText? name = if key = name then f.document toValue else none := by
  rw [Field.entry_eq, Entries.getText?_toList]

/-- What a mapping keeps of another one under a schema. -/
structure Keeps (fields : List Spellings) (source written : Entries) : Prop where
  /-- What was found for a declared field, under whatever spelling, stands under its preferred
  one, and nothing does where nothing was found. -/
  declared : ∀ keys ∈ fields, written.getText? (preferred keys) = found? source keys
  /-- The entries that no field took stand behind the declared ones as they were, in their order,
  and that is all. -/
  passed : ∃ front, written = front ++ passed (usedKeys source fields) source ∧
    ∀ e ∈ front, ∃ keys ∈ fields, e.1 = .text (preferred keys)

theorem keeps_tidy {fields : List Spellings} (hfields : Apart fields) (source : Entries) :
    Keeps fields source (tidy fields source) where
  declared keys hmem := by
    have hfind : find? (tidy fields source) keys =
        (found? source keys).map fun v => (preferred keys, v) := find?_tidy hfields hmem
    cases hfound : found? source keys with
    | some v => exact (getText?_of_find? (by rw [hfind, hfound]; rfl)).2
    | none =>
      rw [hfound] at hfind
      refine find?_eq_none_iff.mp hfind _ ?_
      have hspelled := hfields.spelled keys hmem
      cases keys with
      | nil => exact absurd rfl hspelled
      | cons first rest => exact List.mem_cons_self
  passed := by
    refine ⟨_, rfl, fun e he => ?_⟩
    obtain ⟨keys, hmem, he⟩ := List.mem_flatMap.mp he
    obtain ⟨v, _, rfl⟩ := Option.map_eq_some_iff.mp (Option.mem_toList.mp he)
    exact ⟨keys, hmem, rfl⟩

namespace Config

variable {c : Config}

theorem found?_toDocument (c : Config) :
    ∃ entries, c.toDocument = .map entries ∧
      found? entries ["version"] = some (.text c.version) ∧
      found? entries ["name"] = c.name.document .text ∧
      found? entries ["description"] = c.description.document .text ∧
      found? entries ["settings"] = c.settings.document Settings.toDocument ∧
      found? entries ["commands"] = some (.list (c.commands.map Command.toDocument)) := by
  refine ⟨_, rfl, ?_, ?_, ?_, ?_, ?_⟩ <;>
    simp [found?_single, Entries.getText?, Entries.getText?_append, Field.getText?_entry]

/-- The document of a configuration that was read from plain data is read as the same
configuration. -/
theorem check_toDocument (hplain : v.isPlain = true) (h : Config.check lookup v = .pass c) :
    Config.check lookup c.toDocument = .pass c := by
  obtain ⟨source, hsource, hread⟩ := (check_eq_pass_iff hplain).mp h
  have hentries := holdPlain_of_entries? hplain hsource
  obtain ⟨⟨version, _, hversion⟩, hname, hdescription, hsettings, commands, hfound, hcommands⟩ :=
    ofEntries_eq_pass_iff.mp hread
  obtain ⟨entries, hdocument, hversion', hname', hdescription', hsettings', hcommands'⟩ :=
    found?_toDocument c
  rw [hdocument]
  -- Under each key stands what the field was read from, or the document of it.
  refine ofEntries_eq_pass_iff.mpr ⟨⟨_, hversion', ?_⟩, ?_, ?_, ?_, ⟨_, hcommands', ?_⟩⟩
  · rwa [exact_checkVersion hversion]
  · rwa [hname', hname.document_eq exact_strictText]
  · rwa [hdescription', hdescription.document_eq exact_strictText]
  · rw [hsettings']
    generalize hpart : found? source ["settings"] = found, c.settings = settings at hsettings
    cases hsettings with
    | absent => exact .absent
    | null => exact .null
    | given _ passes =>
      have hsettings := Settings.check_toDocument (isPlain_of_found? hentries hpart) passes
      exact .given (by simp [Settings.toDocument]) hsettings.2
  · have hpart := isPlain_of_found? hentries hfound
    obtain ⟨items, rfl⟩ := eq_list_of_checkCommands hpart hcommands
    exact (checkCommands_toDocument hpart hcommands).2

/-- The settings in the document of a configuration are the tidy form of those that it was read
from. -/
theorem settings_toDocument (hplain : v.isPlain = true) (h : Config.check lookup v = .pass c)
    {part : Value} {source : Entries} (hpart : v.part? lookup "settings" = some part)
    (hsource : part.entries? lookup = some source) :
    c.toDocument.part? lookup "settings" = some (.map (tidy Settings.spellings source)) := by
  obtain ⟨whole, hwhole, hread⟩ := (check_eq_pass_iff hplain).mp h
  obtain ⟨_, _, _, hsettings, _⟩ := ofEntries_eq_pass_iff.mp hread
  obtain ⟨entries, hdocument, _, _, _, hwritten, _⟩ := found?_toDocument c
  have hfound : found? whole ["settings"] = some part := by
    simpa [Value.part?, hwhole, found?_single] using hpart
  have hplainPart := isPlain_of_found? (holdPlain_of_entries? hplain hwhole) hfound
  rw [hfound] at hsettings
  generalize c.settings = settings at hsettings hwritten
  cases hsettings with
  | null => cases hsource
  | given _ passes =>
    obtain ⟨⟨source', hsource', htidy⟩, _⟩ := Settings.check_toDocument hplainPart passes
    obtain rfl : source' = source := Option.some.inj (hsource'.symm.trans hsource)
    rw [hdocument, ← htidy]
    simpa [Value.part?, Value.entries?, found?_single, Field.document] using hwritten

/-- The commands in the document of a configuration are the tidy forms of those that it was read
from, one for each in their order. -/
theorem commands_toDocument (hplain : v.isPlain = true) (h : Config.check lookup v = .pass c) :
    ∃ items, v.part? lookup "commands" = some (.list items) ∧
      c.toDocument.part? lookup "commands" = some (.list (c.commands.map Command.toDocument)) ∧
      List.Forall₂ (fun item d => ∃ source, item.entries? lookup = some source ∧
        d.toDocument = .map (tidy Command.spellings source)) items c.commands := by
  obtain ⟨whole, hwhole, hread⟩ := (check_eq_pass_iff hplain).mp h
  obtain ⟨_, _, _, _, commands, hfound, hcommands⟩ := ofEntries_eq_pass_iff.mp hread
  obtain ⟨entries, hdocument, _, _, _, _, hwritten⟩ := found?_toDocument c
  have hplainPart := isPlain_of_found? (holdPlain_of_entries? hplain hwhole) hfound
  obtain ⟨items, rfl⟩ := eq_list_of_checkCommands hplainPart hcommands
  refine ⟨items, ?_, ?_, (checkCommands_toDocument hplainPart hcommands).1⟩
  · simpa [Value.part?, hwhole, found?_single] using hfound
  · simpa [hdocument, Value.part?, Value.entries?, found?_single] using hwritten

end Config

/-- Documents round trip. A configuration that was read from plain data is written as a document
that is read as the same configuration, and so written the same again; where a configuration is
expected it is taken as it is. Its document keeps each declared setting under the preferred
spelling of its key, and the keys that settings and commands pass through as they were. -/
theorem document_round_trips {c : Config} (hplain : v.isPlain = true)
    (hread : Loader.check lookup v = .ok c) :
    (∃ d, Loader.check lookup c.toDocument = .ok d ∧ d = c ∧ d.toDocument = c.toDocument) ∧
      Loader.check lookup c.toRecord = .ok c ∧
      (∀ part source, v.part? lookup "settings" = some part → part.entries? lookup = some source →
        ∃ written, c.toDocument.part? lookup "settings" = some (.map written) ∧
          Keeps Settings.spellings source written) ∧
      ∃ items written, v.part? lookup "commands" = some (.list items) ∧
        c.toDocument.part? lookup "commands" = some (.list (written.map .map)) ∧
        List.Forall₂ (fun item out => ∃ source, item.entries? lookup = some source ∧
          Keeps Command.spellings source out) items written := by
  have hpass := Loader.check_eq_ok_iff.mp hread
  refine ⟨⟨c, Loader.check_eq_ok_iff.mpr (Config.check_toDocument hplain hpass), rfl, rfl⟩,
    Loader.check_eq_ok_iff.mpr c.check_toRecord, ?_, ?_⟩
  · intro part source hpart hsource
    exact ⟨_, Config.settings_toDocument hplain hpass hpart hsource,
      keeps_tidy Settings.apart_spellings source⟩
  · obtain ⟨items, hitems, hwritten, htidy⟩ := Config.commands_toDocument hplain hpass
    refine ⟨items, c.commands.map Command.entries, hitems, ?_, ?_⟩
    · rw [hwritten, List.map_map]
      rfl
    · refine List.forall₂_map_right_iff.mpr (htidy.imp fun item d => ?_)
      rintro ⟨source, hsource, hd⟩
      rw [show d.entries = tidy Command.spellings source from Value.map.inj hd]
      exact ⟨source, hsource, keeps_tidy Command.apart_spellings source⟩

/-- A document with settings spelled both ways, nulls, keys to pass through and an unknown key. -/
def mixedDocument : Value :=
  .ofFields
    [("comment", .text "ignored"),
      ("commands", .list
        [.ofFields
          [("selector", .text "#a"), ("command", .text "click"),
            ("options", .list [.null, .bool true])],
          .ofFields [("description", .null), ("command", .text "wait")]]),
      ("settings", .ofFields
        [("viewport", .ofFields [("width", .int 800)]), ("wait_for_completion", .text "maybe"),
          ("waitForCompletion", .bool true), ("continue_on_error", .null), ("timeout", .int 10)]),
      ("version", .text "1"),
      ("name", .null)]

theorem mixed_document_round_trips :
    mixedDocument.isPlain = true ∧ ∃ c, Loader.check .none mixedDocument = .ok c ∧
      Loader.check .none c.toDocument = .ok c ∧ Loader.check .none c.toRecord = .ok c ∧
      ∃ written : Entries, c.toDocument.part? .none "settings" = some (.map written) ∧
        written.getText? "continueOnError" = some .null ∧
        written = textEntries
          [("timeout", .int 10), ("waitForCompletion", .bool true), ("continueOnError", .null),
            ("viewport", .ofFields [("width", .int 800)]),
            ("wait_for_completion", .text "maybe")] := by
  have hplain : mixedDocument.isPlain = true := rfl
  obtain ⟨c, hread⟩ : ∃ c, Loader.check .none mixedDocument = .ok c := ⟨_, rfl⟩
  obtain ⟨⟨d, hagain, rfl, _⟩, hrecord, hsettings, _⟩ := document_round_trips hplain hread
  obtain ⟨written, hwritten, hkeeps⟩ := hsettings _ _ rfl rfl
  refine ⟨hplain, d, hread, hagain, hrecord, written, hwritten,
    hkeeps.declared ["continueOnError", "continue_on_error"] (by decide), ?_⟩
  cases hread
  exact (Value.map.inj (Option.some.inj hwritten)).symm

end Playbook
