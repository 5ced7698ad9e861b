import Playbook.Engine.Run

/-!
Reading what was written. An object that lets its fields be set shows the value that was set last,
whether its fields are attributes or keys. The names that the engine tries one after another are
read here as a list of spellings, of which the first that holds something counts.
-/

namespace Playbook

variable {μ : Type}

theorem Value.isNull_iff {v : Value} : v.isNull = true ↔ v = .null := by
  cases v <;> simp [Value.isNull]

theorem Value.eq_text_of_equals {n : String} {k : Value}
    (h : (Value.text n).equals k = true) : k = .text n := by
  cases k <;> simp [Value.equals] at h
  rw [h]

theorem Value.equals_text_self (n : String) : (Value.text n).equals (.text n) = true := by
  simp [Value.equals]

theorem lookup_filter {α : Type} (p : String → Bool) (fields : List (String × α)) (name : String) :
    (fields.filter fun field => p field.1).lookup name =
      if p name then fields.lookup name else none := by
  induction fields with
  | nil => simp
  | cons field rest ih =>
    obtain ⟨key, v⟩ := field
    by_cases hkey : name = key
    · subst hkey
      cases hp : p name <;> simp [hp, ih]
    · have hne : (name == key) = false := by simpa using hkey
      cases hp : p key <;> simp [List.lookup_cons, hp, hne, ih]

theorem Entries.getText?_insert_self (entries : Entries) (n : String) (v : Value) :
    (entries.insert (.text n) v).getText? n = some v := by
  induction entries with
  | nil => simp [Entries.insert, Entries.getText?]
  | cons entry rest ih =>
    obtain ⟨k, old⟩ := entry
    by_cases hk : (Value.text n).equals k = true
    · have hkey := Value.eq_text_of_equals hk
      subst hkey
      simp [Entries.insert, Entries.getText?, Value.equals_text_self]
    · simp only [Entries.insert, hk, Bool.false_eq_true, if_false]
      cases k with
      | text s =>
        have hne : s ≠ n := by
          rintro rfl
          exact hk (Value.equals_text_self s)
        simpa [Entries.getText?, hne] using ih
      | _ => simpa [Entries.getText?] using ih

namespace Store

theorem lookup_putCell_self (h : Handle) (c : Cell μ) (cells : List (Handle × Cell μ)) :
    (putCell h c cells).lookup h = some c := by
  induction cells with
  | nil => simp [putCell]
  | cons cell rest ih =>
    obtain ⟨k, old⟩ := cell
    by_cases hk : k = h
    · subst hk
      simp [putCell]
    · have hne : (h == k) = false := by simpa using fun heq : h = k => hk heq.symm
      simpa [putCell, hk, List.lookup_cons, hne] using ih

@[simp] theorem get?_put_self (s : Store μ) (h : Handle) (c : Cell μ) :
    (s.put h c).get? h = some c :=
  lookup_putCell_self h c s.cells

/-- Whether fields can be set on a value: on an object with open attributes and on a mapping that
can be changed. -/
def settable (s : Store μ) : Value → Bool
  | .handle h =>
    match s.get? h with
    | some c => c.shape == .object || c.shape == .mapping
    | none => false
  | _ => false

/-- Setting a field works on whatever is settable, and the field then reads as what was set. -/
theorem setField?_of_settable (s : Store μ) (v : Value) (name : String) (value : Value)
    (h : s.settable v = true) :
    ∃ s', s.setField? v name value = some s' ∧ s'.field v name = value := by
  cases v with
  | handle k =>
    cases hcell : s.get? k with
    | none => simp [settable, hcell] at h
    | some c =>
      obtain ⟨shape, fields, methods⟩ := c
      let written := fields.insert (.text name) value
      have hread : written.getText? name = some value := fields.getText?_insert_self name value
      cases shape with
      | object =>
        refine ⟨s.put k ⟨.object, written, methods⟩, by simp only [setField?, hcell, written], ?_⟩
        simp [field, Value.entries?, lookup, attribute?, Shape.isMapping, Member.value, hread]
      | mapping =>
        refine ⟨s.put k ⟨.mapping, written, methods⟩, by simp only [setField?, hcell, written], ?_⟩
        simp [field, Value.entries?, lookup, Shape.isMapping, hread]
      | sealed => simp [settable, hcell] at h
      | frozen => simp [settable, hcell] at h
  | _ => simp [settable] at h

/-- A value, unless it is null. -/
def present? (v : Value) : Option Value := if v.isNull then none else some v

/-- What a value holds under the first of some names that is there and not null. -/
def firstPresent (s : Store μ) (v : Value) (names : List String) : Option Value :=
  names.findSome? fun name => present? (s.field v name)

theorem present?_newWindow (s : Store μ) (data : Value) :
    present? (s.newWindow data) = s.firstPresent data ["newWindow", "new_window"] := by
  cases hfirst : (s.field data "newWindow").isNull <;>
    simp [newWindow, firstPresent, present?, hfirst, List.findSome?]
  split <;> simp_all

theorem present?_sessionState (s : Store μ) (window : Value) :
    present? (s.sessionState window) =
      s.firstPresent window ["request_result", "requestResult"] := by
  cases hfirst : (s.field window "request_result").isNull <;>
    simp [sessionState, firstPresent, present?, hfirst, List.findSome?]
  split <;> simp_all

theorem present?_eq_none_iff {v : Value} : present? v = none ↔ v.isNull = true := by
  simp [present?]

theorem present?_eq_some_iff {v w : Value} : present? v = some w ↔ v.isNull = false ∧ v = w := by
  cases h : v.isNull <;> simp [present?, h]

/-- Methods are found on objects only, among those that the object has. -/
theorem attribute?_eq_method {s : Store μ} {v : Value} {name : String} {k : μ}
    (h : s.attribute? v name = some (.method k)) :
    ∃ owner cell, v = .handle owner ∧ s.get? owner = some cell ∧
      cell.methods.lookup name = some k := by
  cases v with
  | handle owner =>
    cases hcell : s.get? owner with
    | none => simp [attribute?, hcell] at h
    | some cell =>
      refine ⟨owner, cell, rfl, hcell, ?_⟩
      simp only [attribute?, hcell] at h
      split at h
      · cases h
      · obtain ⟨found, hfound, hk⟩ := Option.map_eq_some_iff.mp h
        rw [hfound, Member.method.inj hk]
  | record type slots =>
    obtain ⟨found, _, hplain⟩ := Option.map_eq_some_iff.mp h
    cases hplain
  | _ => cases h

theorem attribute?_of_presentAttribute? {s : Store μ} {v : Value} {name : String} {m : Member μ}
    (h : s.presentAttribute? v name = some m) :
    s.attribute? v name = some m := by
  unfold presentAttribute? at h
  split at h
  · cases h
  · exact h

end Store

end Playbook
