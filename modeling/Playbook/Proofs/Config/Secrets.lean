import Playbook.Proofs.Config.Interpolation
import Playbook.Proofs.Outcome.Times

/-!
What a validation error tells of the values of variables. The schema is asked about a document whose
placeholders are filled in already, so its texts may be secrets. Of a text it asks three things
only: whether a version is empty, whether the name of a command is, and whether a base URL is one.
Two environments that agree on these have the same verdict on the document, issue by issue.
-/

namespace Playbook

open Relator Schema Schema.Check

variable {α β γ : Type} {f g : String → String} {entries : Entries} {keys : Spellings}
  {lookup : Lookup} {v : Value} {s : String}

/-! ### Documents with other texts in them -/

theorem getText?_mapEntries (f : String → String) (entries : Entries) (key : String) :
    Entries.getText? (mapEntries f entries) key = (entries.getText? key).map (Value.mapTexts f) := by
  induction entries with
  | nil => rfl
  | cons e rest ih =>
    obtain ⟨k, w⟩ := e
    cases k with
    | text s =>
      by_cases hs : s = key
      · simp [mapEntries, Entries.getText?, hs]
      · simpa [mapEntries, Entries.getText?, hs] using ih
    | _ => simpa [mapEntries, Entries.getText?] using ih

theorem find?_mapEntries (f : String → String) (entries : Entries) (keys : Spellings) :
    find? (mapEntries f entries) keys =
      (find? entries keys).map fun found => (found.1, found.2.mapTexts f) := by
  induction keys with
  | nil => rfl
  | cons key rest ih =>
    cases h : entries.getText? key <;> simp [find?, getText?_mapEntries, h, ih]

theorem keyIssues_mapEntries (f : String → String) (entries : Entries) :
    keyIssues (mapEntries f entries) = keyIssues entries := by
  induction entries with
  | nil => rfl
  | cons e rest ih =>
    obtain ⟨k, w⟩ := e
    cases k with
    | text s => exact ih
    | _ => exact congrArg (List.cons _) ih

theorem mapTexts_ne_null (f : String → String) (h : v ≠ .null) : v.mapTexts f ≠ .null := by
  cases v with
  | null => exact absurd rfl h
  | _ => nofun

/-! ### The same verdict -/

namespace Schema.Check

/-- Both checks pass, or both find the same issues. -/
def SameVerdict (x : Check α) (y : Check β) : Prop := Alike (fun _ _ => True) x y

theorem Alike.mono {R S : α → β → Prop} {x : Check α} {y : Check β} (h : Alike R x y)
    (hRS : ∀ a b, R a b → S a b) : Alike S x y := by
  cases h with
  | pass hab => exact .pass (hRS _ _ hab)
  | fail issues => exact .fail issues

theorem Alike.bind {R : α → β → Prop} {S : γ → γ → Prop} {x : Check α} {y : Check β}
    {next : α → Check γ} {next' : β → Check γ} (h : Alike R x y)
    (hnext : ∀ a b, R a b → Alike S (next a) (next' b)) :
    Alike S (x.andThen next) (y.andThen next') := by
  cases h with
  | pass hab => exact hnext _ _ hab
  | fail issues => exact .fail issues

namespace SameVerdict

theorem refl (x : Check α) : SameVerdict x x := .same (fun _ => trivial) x

theorem passes_or_fails {x : Check α} {y : Check β} (h : SameVerdict x y) :
    ((∃ a, x = .pass a) ∧ ∃ b, y = .pass b) ∨ ∃ issues, x = .fail issues ∧ y = .fail issues := by
  cases h with
  | pass _ => exact .inl ⟨⟨_, rfl⟩, _, rfl⟩
  | fail issues => exact .inr ⟨issues, rfl, rfl⟩

theorem of_reports {x : Check α} {y : Check β} {issues : List Issue} (hx : x.Reports issues)
    (hy : y.Reports issues) : SameVerdict x y := by
  cases x with
  | pass a =>
    obtain rfl : issues = [] := hx
    obtain ⟨b, rfl⟩ := hy.passes_iff.mpr rfl
    exact .pass trivial
  | fail found =>
    obtain ⟨rfl, hsome⟩ := hx
    rw [hy.eq_fail hsome]
    exact .fail found

theorem map {x : Check α} {y : Check β} (h : SameVerdict x y) (make : α → γ) (make' : β → γ) :
    SameVerdict (x.map make) (y.map make') :=
  Alike.map h fun _ _ _ => trivial

theorem fmap {x : Check α} {y : Check β} (h : SameVerdict x y) (make : α → γ) (make' : β → γ) :
    SameVerdict (make <$> x) (make' <$> y) :=
  h.map make make'

theorem under {x : Check α} {y : Check β} (h : SameVerdict x y) (s : Step) :
    SameVerdict (x.under s) (y.under s) :=
  Alike.under h s

theorem seq {x : Check α} {y : Check β} {make : Check (α → γ)} {make' : Check (β → γ)}
    (hmake : SameVerdict make make') (h : SameVerdict x y) :
    SameVerdict (make <*> x) (make' <*> y) :=
  Alike.seq (Alike.mono hmake fun _ _ _ _ _ _ => trivial) h

end SameVerdict

end Schema.Check

/-! ### Fields with other texts in them -/

/-- A field that has to be there has the same verdict under both fillings when its check has. -/
theorem required_sameVerdict {check : Value → Check α}
    (hcheck : ∀ v, found? entries keys = some v →
      SameVerdict (check (v.mapTexts f)) (check (v.mapTexts g))) :
    SameVerdict (required (mapEntries f entries) keys check)
      (required (mapEntries g entries) keys check) := by
  rw [required, required, find?_mapEntries, find?_mapEntries]
  cases hfind : find? entries keys with
  | none => exact .refl _
  | some found =>
    have hfound := hcheck found.2 (by simp [found?, hfind])
    exact hfound.under _

theorem fieldOf_sameVerdict {check : Value → Check α}
    (hcheck : ∀ v, found? entries keys = some v →
      SameVerdict (check (v.mapTexts f)) (check (v.mapTexts g))) :
    SameVerdict (fieldOf (mapEntries f entries) keys check)
      (fieldOf (mapEntries g entries) keys check) := by
  rw [fieldOf, fieldOf, whenGiven, whenGiven, find?_mapEntries, find?_mapEntries]
  cases hfind : find? entries keys with
  | none => exact .refl _
  | some found =>
    obtain ⟨key, v⟩ := found
    by_cases hv : v = .null
    · subst hv
      exact .refl _
    · have hfound := hcheck v (by simp [found?, hfind])
      have hgiven : SameVerdict (optional check (v.mapTexts f)) (optional check (v.mapTexts g)) := by
        rw [optional_of_ne_null (mapTexts_ne_null f hv), optional_of_ne_null (mapTexts_ne_null g hv)]
        exact hfound.map some some
      exact ((hgiven.under (.key key)).map some some).map Field.ofFound Field.ofFound

/-- Which rows are as long as each other is all that a rule for the number of items can see. -/
theorem items_alike {check : Value → Check α} {row : List Value}
    (hcheck : ∀ v ∈ row, SameVerdict (check (v.mapTexts f)) (check (v.mapTexts g))) (i : Nat) :
    Alike (fun as bs => as.isEmpty = bs.isEmpty) (items check i (mapItems f row))
      (items check i (mapItems g row)) := by
  induction row generalizing i with
  | nil => exact .pass rfl
  | cons v rest ih =>
    have hhead := (hcheck v List.mem_cons_self).under (.index i)
    have hrest := ih (fun w hw => hcheck w (List.mem_cons_of_mem v hw)) (i + 1)
    have hcons : ((fun _ _ => True) ⇒ (fun as bs => as.isEmpty = bs.isEmpty) ⇒
        fun as bs : List α => as.isEmpty = bs.isEmpty)
        (fun a as => a :: as) (fun b bs => b :: bs) :=
      fun _ _ _ _ _ _ => rfl
    exact (Alike.fmap hcons hhead).seq hrest

/-- Filling in touches texts, rows and mappings; anything else is checked as it is. -/
theorem sameVerdict_of_shape (check : Value → Check α)
    (htext : ∀ s, v = .text s → SameVerdict (check (.text (f s))) (check (.text (g s))))
    (hrow : ∀ items, v = .list items ∨ v = .tuple items →
      SameVerdict (check (.list (mapItems f items))) (check (.list (mapItems g items))))
    (hmap : ∀ entries, v = .map entries ∨ v = .frozenMap entries →
      SameVerdict (check (.map (mapEntries f entries))) (check (.map (mapEntries g entries)))) :
    SameVerdict (check (v.mapTexts f)) (check (v.mapTexts g)) := by
  cases v with
  | text s => exact htext s rfl
  | list items => exact hrow items (.inl rfl)
  | tuple items => exact hrow items (.inr rfl)
  | map entries => exact hmap entries (.inl rfl)
  | frozenMap entries => exact hmap entries (.inr rfl)
  | _ => exact .refl _

theorem keepOthers_sameVerdict (used used' : List String) :
    SameVerdict (keepOthers used (mapEntries f entries))
      (keepOthers used' (mapEntries g entries)) := by
  have hf := keepOthers_reports used (mapEntries f entries)
  have hg := keepOthers_reports used' (mapEntries g entries)
  rw [keyIssues_mapEntries] at hf hg
  exact .of_reports hf hg

theorem strictText_sameVerdict (v : Value) :
    SameVerdict (strictText (v.mapTexts f)) (strictText (v.mapTexts g)) :=
  sameVerdict_of_shape strictText (fun _ _ => .pass trivial) (fun _ _ => .refl _) (fun _ _ => .refl _)

theorem strictBool_sameVerdict (v : Value) :
    SameVerdict (strictBool (v.mapTexts f)) (strictBool (v.mapTexts g)) :=
  sameVerdict_of_shape strictBool (fun _ _ => .refl _) (fun _ _ => .refl _) (fun _ _ => .refl _)

theorem checkTimeout_sameVerdict (v : Value) :
    SameVerdict (Settings.checkTimeout (v.mapTexts f)) (Settings.checkTimeout (v.mapTexts g)) :=
  sameVerdict_of_shape Settings.checkTimeout (fun _ _ => .refl _) (fun _ _ => .refl _)
    (fun _ _ => .refl _)

theorem filled_sameVerdict {empty : Cause} (h : ∀ s, v = .text s → (f s = "" ↔ g s = "")) :
    SameVerdict
      ((strictText (v.mapTexts f)).andThen fun s => if s = "" then reject empty else .pass s)
      ((strictText (v.mapTexts g)).andThen fun s => if s = "" then reject empty else .pass s) := by
  let check : Value → Check String := fun v =>
    (strictText v).andThen fun s => if s = "" then reject empty else .pass s
  refine sameVerdict_of_shape check (fun s hs => ?_) (fun _ _ => .refl _) (fun _ _ => .refl _)
  have hempty := h s hs
  by_cases hf : f s = ""
  · have hg : g s = "" := hempty.mp hf
    simp only [check, strictText, Check.andThen, if_pos hf, if_pos hg]
    exact .refl _
  · have hg : g s ≠ "" := fun hg => hf (hempty.mpr hg)
    simp only [check, strictText, Check.andThen, if_neg hf, if_neg hg]
    exact .pass trivial

theorem checkBaseUrl_sameVerdict
    (h : ∀ s, v = .text s → Url.isAbsolute (f s) = Url.isAbsolute (g s)) :
    SameVerdict (Settings.checkBaseUrl (v.mapTexts f)) (Settings.checkBaseUrl (v.mapTexts g)) := by
  refine sameVerdict_of_shape (Settings.checkBaseUrl ·) (fun s hs => ?_) (fun _ _ => .refl _)
    (fun _ _ => .refl _)
  change SameVerdict (if Url.isAbsolute (f s) then .pass (f s) else reject .badBaseUrl)
    (if Url.isAbsolute (g s) then .pass (g s) else reject .badBaseUrl)
  rw [h s hs]
  split
  · exact .pass trivial
  · exact .refl _

/-! ### What the rules look at -/

/-- The text that a field is given, if it is given one. -/
def textUnder (entries : Entries) (keys : Spellings) : Option String :=
  (found? entries keys).bind Value.text?

def settingsEntries (entries : Entries) : Entries :=
  ((entries.getText? "settings").bind (Value.entries? .none)).getD []

/-- The commands of a document that are mappings. -/
def commandEntries (entries : Entries) : List Entries :=
  match entries.getText? "commands" with
  | some (.list items) | some (.tuple items) => items.filterMap (Value.entries? .none)
  | _ => []

/-- The texts that may not be empty: the version and the names of the commands. -/
def ruledTexts (entries : Entries) : List String :=
  (textUnder entries ["version"]).toList ++
    (commandEntries entries).filterMap fun command => textUnder command ["command"]

/-- The text that has to be an address. -/
def addressText? (entries : Entries) : Option String :=
  textUnder (settingsEntries entries) ["baseUrl", "base_url"]

/-- Two ways to fill in a document come to the same by each rule for its texts. -/
structure RulesAgree (f g : String → String) (entries : Entries) : Prop where
  empty : ∀ s ∈ ruledTexts entries, f s = "" ↔ g s = ""
  address : ∀ s, addressText? entries = some s → Url.isAbsolute (f s) = Url.isAbsolute (g s)

theorem textUnder_of_found? (h : found? entries keys = some (.text s)) :
    textUnder entries keys = some s := by
  rw [textUnder, h]
  rfl

theorem Settings.ofEntries_sameVerdict
    (haddress : ∀ s, textUnder entries ["baseUrl", "base_url"] = some s →
      Url.isAbsolute (f s) = Url.isAbsolute (g s)) :
    SameVerdict (Settings.ofEntries (mapEntries f entries))
      (Settings.ofEntries (mapEntries g entries)) := by
  have htimeout : SameVerdict (fieldOf (mapEntries f entries) ["timeout"] checkTimeout)
      (fieldOf (mapEntries g entries) ["timeout"] checkTimeout) :=
    fieldOf_sameVerdict fun v _ => checkTimeout_sameVerdict v
  have hflag (keys : Spellings) : SameVerdict (fieldOf (mapEntries f entries) keys strictBool)
      (fieldOf (mapEntries g entries) keys strictBool) :=
    fieldOf_sameVerdict fun v _ => strictBool_sameVerdict v
  have hbase :
      SameVerdict (fieldOf (mapEntries f entries) ["baseUrl", "base_url"] checkBaseUrl)
        (fieldOf (mapEntries g entries) ["baseUrl", "base_url"] checkBaseUrl) := by
    refine fieldOf_sameVerdict fun v hfound => checkBaseUrl_sameVerdict fun s hs => ?_
    exact haddress s (textUnder_of_found? (hs ▸ hfound))
  rw [ofEntries, ofEntries, readingKeys_default, readingKeys_default]
  exact ((((htimeout.fmap _ _).seq (hflag _)).seq (hflag _)).seq hbase).seq
    (keepOthers_sameVerdict _ _)

theorem Command.ofEntries_sameVerdict
    (hname : ∀ s, textUnder entries ["command"] = some s → (f s = "" ↔ g s = "")) :
    SameVerdict (Command.ofEntries (mapEntries f entries))
      (Command.ofEntries (mapEntries g entries)) := by
  have hcommand : SameVerdict (required (mapEntries f entries) ["command"] checkName)
      (required (mapEntries g entries) ["command"] checkName) := by
    refine required_sameVerdict fun v hfound => filled_sameVerdict fun s hs => ?_
    exact hname s (textUnder_of_found? (hs ▸ hfound))
  have hdescription : SameVerdict (fieldOf (mapEntries f entries) ["description"] strictText)
      (fieldOf (mapEntries g entries) ["description"] strictText) :=
    fieldOf_sameVerdict fun v _ => strictText_sameVerdict v
  rw [ofEntries, ofEntries, readingKeys_default, readingKeys_default]
  exact ((hcommand.fmap _ _).seq hdescription).seq (keepOthers_sameVerdict _ _)

theorem Settings.check_sameVerdict
    (haddress : ∀ entries, v.entries? .none = some entries →
      ∀ s, textUnder entries ["baseUrl", "base_url"] = some s →
        Url.isAbsolute (f s) = Url.isAbsolute (g s)) :
    SameVerdict (Settings.check lookup (v.mapTexts f)) (Settings.check lookup (v.mapTexts g)) := by
  refine sameVerdict_of_shape (Settings.check lookup ·) (fun _ _ => .refl _) (fun _ _ => .refl _)
    fun entries hv => ?_
  refine ofEntries_sameVerdict (haddress entries ?_)
  rcases hv with rfl | rfl <;> rfl

theorem Command.check_sameVerdict
    (hname : ∀ entries, v.entries? .none = some entries →
      ∀ s, textUnder entries ["command"] = some s → (f s = "" ↔ g s = "")) :
    SameVerdict (Command.check lookup (v.mapTexts f)) (Command.check lookup (v.mapTexts g)) := by
  refine sameVerdict_of_shape (Command.check lookup ·) (fun _ _ => .refl _) (fun _ _ => .refl _)
    fun entries hv => ?_
  refine ofEntries_sameVerdict (hname entries ?_)
  rcases hv with rfl | rfl <;> rfl

theorem Config.checkCommands_sameVerdict
    (hnames : ∀ items, v = .list items ∨ v = .tuple items →
      ∀ command ∈ items.filterMap (Value.entries? .none),
        ∀ s, textUnder command ["command"] = some s → (f s = "" ↔ g s = "")) :
    SameVerdict (Config.checkCommands lookup (v.mapTexts f))
      (Config.checkCommands lookup (v.mapTexts g)) := by
  refine sameVerdict_of_shape (Config.checkCommands lookup ·) (fun _ _ => .refl _)
    (fun items hv => ?_) (fun _ _ => .refl _)
  have hitems : ∀ item ∈ items, SameVerdict (Command.check lookup (item.mapTexts f))
      (Command.check lookup (item.mapTexts g)) := by
    intro item hmem
    refine Command.check_sameVerdict fun entries hentries => ?_
    exact hnames items hv entries (List.mem_filterMap.mpr ⟨item, hmem, hentries⟩)
  refine Alike.bind (items_alike hitems 0) fun commands others hlength => ?_
  rw [hlength]
  split
  · exact SameVerdict.refl _
  · exact .pass trivial

/-- Documents that agree by the rules for texts have the same verdict. -/
theorem Config.check_sameVerdict (h : RulesAgree f g entries) :
    SameVerdict (Config.check .none ((Value.map entries).mapTexts f))
      (Config.check .none ((Value.map entries).mapTexts g)) := by
  have hversion : SameVerdict (required (mapEntries f entries) ["version"] checkVersion)
      (required (mapEntries g entries) ["version"] checkVersion) := by
    refine required_sameVerdict fun v hfound => filled_sameVerdict fun s hs => ?_
    have htext : textUnder entries ["version"] = some s := textUnder_of_found? (hs ▸ hfound)
    exact h.empty s (List.mem_append_left _ (Option.mem_toList.mpr htext))
  have htext (keys : Spellings) : SameVerdict (fieldOf (mapEntries f entries) keys strictText)
      (fieldOf (mapEntries g entries) keys strictText) :=
    fieldOf_sameVerdict fun v _ => strictText_sameVerdict v
  have hsettings :
      SameVerdict (fieldOf (mapEntries f entries) ["settings"] (Settings.check .none))
        (fieldOf (mapEntries g entries) ["settings"] (Settings.check .none)) := by
    refine fieldOf_sameVerdict fun v hfound => Settings.check_sameVerdict fun inner hinner => ?_
    have hentries : settingsEntries entries = inner := by
      rw [found?_single] at hfound
      simp [settingsEntries, hfound, hinner]
    subst hentries
    exact h.address
  have hcommands :
      SameVerdict (required (mapEntries f entries) ["commands"] (checkCommands .none))
        (required (mapEntries g entries) ["commands"] (checkCommands .none)) := by
    refine required_sameVerdict fun v hfound => checkCommands_sameVerdict ?_
    intro items hv command hcommand s hs
    have hrows : commandEntries entries = items.filterMap (Value.entries? .none) := by
      rw [found?_single] at hfound
      rcases hv with rfl | rfl <;> simp [commandEntries, hfound]
    refine h.empty s (List.mem_append_right _ (List.mem_filterMap.mpr ⟨command, ?_, hs⟩))
    rw [hrows]
    exact hcommand
  exact ((((hversion.fmap _ _).seq (htext _)).seq (htext _)).seq hsettings).seq hcommands

/-! ### Two environments -/

/-- Where every variable is set, a document is checked with its texts filled in. -/
theorem Loader.parseYaml_of_set {l : Loader} {text : String}
    (hread : l.around.read text = .ok (.map entries))
    (hset : ¬ SomeUnset l.environment (Value.map entries).texts) :
    l.parseYaml text = (Loader.check .none
      ((Value.map entries).mapTexts (Template.filled l.environment))).mapError .config := by
  have hnone := not_someUnset_iff.mp hset
  rw [Loader.parseYaml_of_map hread, Template.expandValue_eq, hnone, Template.settled]

/-- A problem with a text is told alike where every variable is set that is met in it. -/
theorem Loader.problemError_congr {l l' : Loader} {p : Yaml.Problem}
    (hset : ∀ met, p = .endless true met →
      ¬ SomeUnset l.environment met ∧ ¬ SomeUnset l'.environment met) :
    l.problemError p = l'.problemError p := by
  cases p with
  | endless isMapping met =>
    cases isMapping with
    | false => rfl
    | true =>
      obtain ⟨hl, hl'⟩ := hset met rfl
      rw [problemError_endless, problemError_endless, not_someUnset_iff.mp hl,
        not_someUnset_iff.mp hl']
  | _ => rfl

/-- Validation errors do not tell what variables hold. Under any two environments that set every
variable which a document mentions, and that agree by the rules for texts, the document loads under
both, or the same issues are found under both; and then the messages are the same too. A text that
is no document is refused alike under all environments, and one of which there is no end under all
that set every variable which is met in it. -/
theorem validation_errors_tell_no_values (around : Surroundings) (env env' : Environment)
    (text : String) :
    let l : Loader := ⟨env, around⟩
    let l' : Loader := ⟨env', around⟩
    (∀ entries, around.read text = .ok (.map entries) →
      ¬ SomeUnset l.environment (Value.map entries).texts →
      ¬ SomeUnset l'.environment (Value.map entries).texts →
      RulesAgree (Template.filled l.environment) (Template.filled l'.environment) entries →
        ((∃ c, l.parseYaml text = .ok c) ∧ ∃ c, l'.parseYaml text = .ok c) ∨
          ∃ issues, l.parseYaml text = .error (.config (.invalid issues)) ∧
            l'.parseYaml text = .error (.config (.invalid issues))) ∧
      ((∀ entries, around.read text ≠ .ok (.map entries)) →
        (∀ met, around.read text = .error (.endless true met) →
          ¬ SomeUnset l.environment met ∧ ¬ SomeUnset l'.environment met) →
        ∃ e, l.parseYaml text = .error e ∧ l'.parseYaml text = .error e) := by
  intro l l'
  constructor
  · intro entries hread hset hset' hrules
    rw [Loader.parseYaml_of_set hread hset, Loader.parseYaml_of_set hread hset', Loader.check,
      Loader.check]
    rcases (Config.check_sameVerdict hrules).passes_or_fails with
      ⟨⟨c, hc⟩, c', hc'⟩ | ⟨issues, hfail, hfail'⟩
    · rw [hc, hc']
      exact .inl ⟨⟨c, rfl⟩, c', rfl⟩
    · rw [hfail, hfail']
      exact .inr ⟨issues, rfl, rfl⟩
  · intro hother hendless
    unfold Loader.parseYaml
    cases hread : around.read text with
    | error p =>
      exact ⟨_, rfl, congrArg Except.error (Loader.problemError_congr fun met heq =>
        (hendless met (heq ▸ hread)).symm)⟩
    | ok document =>
      cases document with
      | map entries => exact absurd hread (hother entries)
      | _ => exact ⟨_, rfl, rfl⟩

/-- A document with placeholders where texts may stand, and where they may not. -/
def secretDocument : String :=
  "version: $\x7bgetenv:A\x7d\nsettings:\n  timeout: $\x7bgetenv:B\x7d\n  base_url: $\x7bgetenv:A\x7d\n" ++
    "commands:\n- $\x7bgetenv:B\x7d"

/-- What the rules look at in a document that is a mapping, which can be computed of it and
compared. -/
def mappingRules? : Except Yaml.Problem Value → Option (List String × List String × Option String)
  | .ok (.map entries) =>
    some ((Value.map entries).texts, ruledTexts entries, addressText? entries)
  | _ => none

def loadError? : Except LoadError Config → Option LoadError
  | .ok _ => none
  | .error e => some e

theorem exists_entries_of_mappingRules? {document : Except Yaml.Problem Value}
    {texts ruled : List String} {address : Option String}
    (h : mappingRules? document = some (texts, ruled, address)) :
    ∃ entries, document = .ok (.map entries) ∧ (Value.map entries).texts = texts ∧
      ruledTexts entries = ruled ∧ addressText? entries = address := by
  cases document with
  | error p => cases h
  | ok v =>
    cases v with
    | map entries =>
      cases h
      exact ⟨entries, rfl, rfl, rfl, rfl⟩
    | _ => cases h

theorem eq_error_of_loadError? {outcome : Except LoadError Config} {e : LoadError}
    (h : loadError? outcome = some e) : outcome = .error e := by
  cases outcome with
  | ok c => cases h
  | error raised => exact congrArg Except.error (Option.some.inj h)

/-- A password and an empty text in its place are found wrong in the same words. -/
theorem password_stays_out_of_errors :
    let l : Loader := ⟨[("A", "1"), ("B", "swordfish")], .empty⟩
    let l' : Loader := ⟨[("A", "2"), ("B", "")], .empty⟩
    let issues : List Issue :=
      [⟨[.key "settings", .key "timeout"], .notInteger⟩,
        ⟨[.key "settings", .key "base_url"], .badBaseUrl⟩,
        ⟨[.key "commands", .index 0], .notRecord "Command"⟩]
    ∃ entries, Yaml.readDocument secretDocument = .ok (.map entries) ∧
      ¬ SomeUnset l.environment (Value.map entries).texts ∧
      ¬ SomeUnset l'.environment (Value.map entries).texts ∧
      RulesAgree (Template.filled l.environment) (Template.filled l'.environment) entries ∧
      l.parseYaml secretDocument = .error (.config (.invalid issues)) ∧
      l'.parseYaml secretDocument = .error (.config (.invalid issues)) := by
  intro l l' issues
  have hrules : mappingRules? (Yaml.readDocument secretDocument) = some
      (["$\x7bgetenv:A\x7d", "$\x7bgetenv:B\x7d", "$\x7bgetenv:A\x7d", "$\x7bgetenv:B\x7d"],
        ["$\x7bgetenv:A\x7d"], some "$\x7bgetenv:A\x7d") := by
    decide +kernel
  obtain ⟨entries, hread, htexts, hruled, haddress⟩ := exists_entries_of_mappingRules? hrules
  have hset : ¬ SomeUnset l.environment (Value.map entries).texts := by
    rw [not_someUnset_iff, htexts]
    decide +kernel
  have hset' : ¬ SomeUnset l'.environment (Value.map entries).texts := by
    rw [not_someUnset_iff, htexts]
    decide +kernel
  have hagree : RulesAgree (Template.filled l.environment) (Template.filled l'.environment)
      entries := by
    refine ⟨?_, ?_⟩
    · rw [hruled]
      decide +kernel
    · intro s hs
      obtain rfl := Option.some.inj (haddress.symm.trans hs)
      decide +kernel
  have hrefused : l.parseYaml secretDocument = .error (.config (.invalid issues)) :=
    eq_error_of_loadError? (by decide +kernel)
  refine ⟨entries, hread, hset, hset', hagree, hrefused, ?_⟩
  obtain ⟨hissues, _⟩ :=
    validation_errors_tell_no_values .empty l.environment l'.environment secretDocument
  rcases hissues entries hread hset hset' hagree with
    ⟨⟨c, hc⟩, _⟩ | ⟨found, hfound, hfound'⟩
  · cases hrefused.symm.trans hc
  · cases hrefused.symm.trans hfound
    exact hfound'

end Playbook
