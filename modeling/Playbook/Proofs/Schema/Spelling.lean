import Playbook.Config.Types
import Playbook.Proofs.Schema.Check

/-!
Mappings and the spellings of their declared keys. A mapping is tidy when each declared key stands
under its preferred spelling, in the order of declaration, with the keys that no field took behind
them. Tidying changes neither what is found for a declared field nor which keys are left over, so
that a schema cannot tell a mapping from its tidy form (`find?_tidy`, `passed_tidy`).
-/

namespace Playbook

namespace Entries

variable {entries first second : Entries} {key : String} {v : Value}

theorem getText?_append :
    (first ++ second).getText? key = (first.getText? key).or (second.getText? key) := by
  induction first with
  | nil => rfl
  | cons e rest ih =>
    obtain ⟨k, w⟩ := e
    cases k with
    | text s =>
      by_cases hs : s = key
      · simp [getText?, hs]
      · simpa [getText?, hs] using ih
    | _ => simpa [getText?] using ih

theorem getText?_toList (found : Option Value) (name : String) :
    Entries.getText? (found.map fun v => (Value.text name, v)).toList key =
      if name = key then found else none := by
  cases found <;> simp [getText?]

theorem mem_of_getText?_eq_some (h : entries.getText? key = some v) :
    (Value.text key, v) ∈ entries := by
  induction entries with
  | nil => cases h
  | cons e rest ih =>
    obtain ⟨k, w⟩ := e
    cases k with
    | text s =>
      by_cases hs : s = key
      · subst hs
        obtain rfl : w = v := by simpa [getText?] using h
        exact List.mem_cons_self
      · exact List.mem_cons_of_mem _ (ih (by simpa [getText?, hs] using h))
    | _ => exact List.mem_cons_of_mem _ (ih (by simpa [getText?] using h))

theorem getText?_ne_none_of_mem (h : (Value.text key, v) ∈ entries) :
    entries.getText? key ≠ none := by
  obtain ⟨before, after, rfl⟩ := List.append_of_mem h
  rw [getText?_append]
  cases Entries.getText? before key <;> simp [getText?]

end Entries

namespace Schema

variable {entries : Entries} {fields : List Spellings} {keys : Spellings} {key : String}
  {used : List String} {v : Value}

def preferred (keys : Spellings) : String := keys.headD ""

/-- What a mapping holds for a declared field, in whatever spelling. -/
def found? (entries : Entries) (keys : Spellings) : Option Value :=
  (find? entries keys).map Prod.snd

theorem find?_eq_none_iff :
    find? entries keys = none ↔ ∀ key ∈ keys, entries.getText? key = none := by
  induction keys with
  | nil => simp [find?]
  | cons key rest ih => cases h : entries.getText? key <;> simp [find?, h, ih]

theorem found?_single (entries : Entries) (key : String) :
    found? entries [key] = entries.getText? key := by
  cases h : entries.getText? key <;> simp [found?, find?, h]

theorem found?_pair (entries : Entries) (first second : String) :
    found? entries [first, second] = (entries.getText? first).or (entries.getText? second) := by
  cases hfirst : entries.getText? first <;> cases hsecond : entries.getText? second <;>
    simp [found?, find?, hfirst, hsecond]

theorem getText?_of_find? (h : find? entries keys = some (key, v)) :
    key ∈ keys ∧ entries.getText? key = some v := by
  induction keys with
  | nil => cases h
  | cons first rest ih =>
    cases hfirst : entries.getText? first with
    | none =>
      obtain ⟨hmem, hread⟩ := ih (by simpa [find?, hfirst] using h)
      exact ⟨List.mem_cons_of_mem first hmem, hread⟩
    | some w =>
      obtain ⟨rfl, rfl⟩ : first = key ∧ w = v := by simpa [find?, hfirst] using h
      exact ⟨List.mem_cons_self, hfirst⟩

theorem find?_of_preferred (hkeys : keys ≠ []) (h : entries.getText? (preferred keys) = some v) :
    find? entries keys = some (preferred keys, v) := by
  cases keys with
  | nil => exact absurd rfl hkeys
  | cons first rest =>
    have hfirst : entries.getText? first = some v := h
    simp [find?, hfirst, preferred]

/-- The entries of declared fields, as far as they were found, under their preferred spelling. -/
def declared (entries : Entries) (fields : List Spellings) : Entries :=
  fields.flatMap fun keys =>
    ((found? entries keys).map fun v => (Value.text (preferred keys), v)).toList

/-- Whether a key is none of those that fields took their values from. -/
def isOther (used : List String) : Value → Bool
  | .text s => !used.contains s
  | _ => true

/-- The entries that no declared field took. -/
def passed (used : List String) (entries : Entries) : Entries :=
  entries.filter fun e => isOther used e.1

/-- The entries of a mapping in the order and the spelling of a schema. -/
def tidy (fields : List Spellings) (entries : Entries) : Entries :=
  declared entries fields ++ passed (usedKeys entries fields) entries

/-- Every declared field has a preferred spelling, which it shares with no other. -/
structure Apart (fields : List Spellings) : Prop where
  spelled : ∀ keys ∈ fields, keys ≠ []
  distinct : (fields.map preferred).Nodup
  apart : ∀ keys ∈ fields, ∀ other ∈ fields, preferred other ∈ keys → other = keys

theorem getText?_declared_cons (head : Spellings) (rest : List Spellings) :
    (declared entries (head :: rest)).getText? key =
      (if preferred head = key then found? entries head else none).or
        ((declared entries rest).getText? key) := by
  rw [declared, List.flatMap_cons, Entries.getText?_append, Entries.getText?_toList]
  rfl

theorem getText?_declared_of_ne (h : ∀ keys ∈ fields, preferred keys ≠ key) :
    (declared entries fields).getText? key = none := by
  induction fields with
  | nil => rfl
  | cons head rest ih =>
    have hne : preferred head ≠ key := h head List.mem_cons_self
    have hrest := ih fun keys hmem => h keys (List.mem_cons_of_mem head hmem)
    rw [getText?_declared_cons, if_neg hne, hrest]
    rfl

theorem getText?_declared (hdistinct : (fields.map preferred).Nodup) (hmem : keys ∈ fields) :
    (declared entries fields).getText? (preferred keys) = found? entries keys := by
  induction fields with
  | nil => cases hmem
  | cons head rest ih =>
    obtain ⟨hfresh, hrest⟩ := List.nodup_cons.mp hdistinct
    rw [getText?_declared_cons]
    rcases List.mem_cons.mp hmem with rfl | hin
    · have hlater : (declared entries rest).getText? (preferred keys) = none :=
        getText?_declared_of_ne fun other hother heq =>
          hfresh (heq ▸ List.mem_map_of_mem hother)
      rw [if_pos rfl, hlater, Option.or_none]
    · have hne : preferred head ≠ preferred keys := fun heq =>
        hfresh (heq ▸ List.mem_map_of_mem hin)
      rw [if_neg hne, ih hrest hin, Option.none_or]

theorem passed_cons (e : Value × Value) :
    passed used (e :: entries) =
      if isOther used e.1 then e :: passed used entries else passed used entries :=
  List.filter_cons

theorem getText?_passed :
    (passed used entries).getText? key = if key ∈ used then none else entries.getText? key := by
  induction entries with
  | nil => simp [passed, Entries.getText?]
  | cons e rest ih =>
    obtain ⟨k, w⟩ := e
    rw [passed_cons]
    cases k with
    | text s =>
      by_cases hused : s ∈ used
      · rw [if_neg (by simp [isOther, hused]), ih]
        by_cases hs : s = key
        · subst hs
          simp [hused]
        · simp [Entries.getText?, hs]
      · rw [if_pos (by simp [isOther, hused])]
        by_cases hs : s = key
        · subst hs
          simp [Entries.getText?, hused]
        · simpa [Entries.getText?, hs] using ih
    | _ => simpa [isOther, Entries.getText?] using ih

/-- In a tidy mapping a declared field is found as it was, under its preferred spelling. -/
theorem find?_tidy (hfields : Apart fields) (hmem : keys ∈ fields) :
    find? (tidy fields entries) keys = (found? entries keys).map fun v => (preferred keys, v) := by
  have hdeclared : (declared entries fields).getText? (preferred keys) = found? entries keys :=
    getText?_declared hfields.distinct hmem
  cases hfound : found? entries keys with
  | some v =>
    refine find?_of_preferred (hfields.spelled keys hmem) ?_
    rw [tidy, Entries.getText?_append, hdeclared, hfound]
    rfl
  | none =>
    have hnone : ∀ key ∈ keys, entries.getText? key = none :=
      find?_eq_none_iff.mp (by simpa [found?] using hfound)
    refine find?_eq_none_iff.mpr fun key hkey => ?_
    have hfront : (declared entries fields).getText? key = none := by
      by_cases hhead : ∃ other ∈ fields, preferred other = key
      · -- The preferred spelling of another field is none of this one's.
        obtain ⟨other, hother, rfl⟩ := hhead
        obtain rfl := hfields.apart keys hmem other hother hkey
        rw [hdeclared, hfound]
      · exact getText?_declared_of_ne fun other hother heq => hhead ⟨other, hother, heq⟩
    rw [tidy, Entries.getText?_append, hfront, getText?_passed, hnone key hkey]
    simp

theorem found?_tidy (hfields : Apart fields) (hmem : keys ∈ fields) :
    found? (tidy fields entries) keys = found? entries keys := by
  rw [found?, find?_tidy hfields hmem]
  cases found? entries keys <;> rfl

/-- In a tidy mapping the same entries are left over. -/
theorem passed_tidy (hfields : Apart fields) :
    passed (usedKeys (tidy fields entries) fields) (tidy fields entries) =
      passed (usedKeys entries fields) entries := by
  -- In the tidy form each field takes its value from the key that it is written under.
  have hused : ∀ s, s ∈ usedKeys (tidy fields entries) fields ↔
      ∃ keys ∈ fields, (found? entries keys).isSome ∧ preferred keys = s := by
    intro s
    rw [usedKeys, List.mem_filterMap]
    refine exists_congr fun keys => and_congr_right fun hmem => ?_
    rw [find?_tidy hfields hmem]
    cases found? entries keys <;> simp
  rw [tidy, passed, List.filter_append]
  have hfront : (declared entries fields).filter
      (fun e => isOther (usedKeys (tidy fields entries) fields) e.1) = [] := by
    refine List.filter_eq_nil_iff.mpr fun e he => ?_
    obtain ⟨keys, hmem, he⟩ := List.mem_flatMap.mp he
    obtain ⟨v, hfound, rfl⟩ := Option.map_eq_some_iff.mp (Option.mem_toList.mp he)
    have := (hused (preferred keys)).mpr ⟨keys, hmem, by rw [hfound]; rfl, rfl⟩
    simpa [isOther] using this
  -- No entry that was left over before is taken now.
  have hback : (passed (usedKeys entries fields) entries).filter
      (fun e => isOther (usedKeys (tidy fields entries) fields) e.1) =
        passed (usedKeys entries fields) entries := by
    refine List.filter_eq_self.mpr fun e he => ?_
    obtain ⟨hin, hother⟩ := List.mem_filter.mp he
    obtain ⟨k, w⟩ := e
    cases k with
    | text s =>
      by_contra hnot
      obtain ⟨keys, hmem, _, rfl⟩ := (hused s).mp (by simpa [isOther] using hnot)
      -- A key in its preferred spelling is the one that its field took.
      obtain ⟨x, hx⟩ := Option.ne_none_iff_exists'.mp (Entries.getText?_ne_none_of_mem hin)
      have htaken : preferred keys ∈ usedKeys entries fields :=
        List.mem_filterMap.mpr
          ⟨keys, hmem, by rw [find?_of_preferred (hfields.spelled keys hmem) hx]; rfl⟩
      simp [isOther, htaken] at hother
    | _ => rfl
  rw [← tidy, hfront, hback, List.nil_append]

/-! ### Keys that are passed through -/

/-- Keys are kept as they are, provided that those which no field took are all text. -/
theorem keepOthers_eq_pass_iff {others : List (String × Value)} :
    keepOthers used entries = .pass others ↔ passed used entries = textEntries others := by
  induction entries generalizing others with
  | nil => cases others <;> simp [keepOthers, passed, textEntries]
  | cons e rest ih =>
    obtain ⟨k, w⟩ := e
    rw [passed_cons]
    cases k with
    | text s =>
      by_cases hused : s ∈ used
      · rw [if_neg (by simp [isOther, hused]), ← ih]
        simp [keepOthers, hused]
      · rw [if_pos (by simp [isOther, hused])]
        simp only [keepOthers, List.contains_iff_mem, hused, if_false, Check.map_eq_pass_iff, ih]
        cases others with
        | nil => simp [textEntries]
        | cons first others =>
          simp only [textEntries, List.map_cons, List.cons.injEq, Prod.ext_iff, Value.text.injEq,
            exists_eq_right_right]
          constructor
          · rintro ⟨hrest, hs, hw⟩
            exact ⟨⟨hs, hw⟩, hrest⟩
          · rintro ⟨⟨hs, hw⟩, hrest⟩
            exact ⟨hrest, hs, hw⟩
    | _ =>
      simp [keepOthers, Check.seq_eq_pass_iff, Check.fmap_eq_pass_iff, Check.reject, Check.under,
        isOther]
      cases others <;> simp [textEntries]

/-- What is wrong with the keys of a mapping: those that are no text. -/
def keyIssues (entries : Entries) : List Issue :=
  entries.filterMap fun e =>
    match e.1 with
    | .text _ => none
    | k => some ⟨[keyStep k], .keyNotText⟩

/-- A key that is no text belongs to no field, so which fields there are makes no difference. -/
theorem keepOthers_reports (used : List String) (entries : Entries) :
    (keepOthers used entries).Reports (keyIssues entries) := by
  induction entries with
  | nil => rfl
  | cons e rest ih =>
    obtain ⟨k, w⟩ := e
    cases k with
    | text s =>
      change (if used.contains s then _ else _ : Check _).Reports (keyIssues rest)
      split
      · exact ih
      · exact ih.map _
    | _ => exact (((Check.reports_reject .keyNotText).under _).fmap _).seq ih

end Schema

end Playbook
