import Playbook.Context
import Playbook.Proofs.Config.Reading
import Playbook.Proofs.Store

/-!
Coercions that settle. Lenient checks take values in many spellings, but what a value was taken for
is taken for the same thing when it is checked again. So checking once and checking twice come to
the same, field by field.
-/

namespace Playbook

open Schema Schema.Check

/-! ### Rows of text keys -/

theorem getText?_textEntries (fields : List (String × Value)) (name : String) :
    (textEntries fields).getText? name = fields.lookup name := by
  induction fields with
  | nil => rfl
  | cons field rest ih =>
    obtain ⟨key, v⟩ := field
    by_cases hkey : key = name
    · subst hkey
      simp [textEntries, Entries.getText?]
    · have hne : (name == key) = false := by simpa using fun heq : name = key => hkey heq.symm
      have htail : (textEntries ((key, v) :: rest)).getText? name =
          (textEntries rest).getText? name := by simp [textEntries, Entries.getText?, hkey]
      rw [htail, ih, List.lookup_cons, hne]

theorem Entries.getText?_insert_other (entries : Entries) {key name : String} (h : key ≠ name)
    (v : Value) : (entries.insert (.text key) v).getText? name = entries.getText? name := by
  induction entries with
  | nil => simp [Entries.insert, Entries.getText?, h]
  | cons entry rest ih =>
    obtain ⟨k, old⟩ := entry
    by_cases hk : (Value.text key).equals k = true
    · have hkey := Value.eq_text_of_equals hk
      subst hkey
      simp [Entries.insert, Entries.getText?, Value.equals_text_self, h]
    · simp only [Entries.insert, hk, Bool.false_eq_true, if_false]
      cases k with
      | text s => by_cases hs : s = name <;> simp [Entries.getText?, hs, ih]
      | _ => simpa [Entries.getText?] using ih

theorem Entries.mem_insert {entries : Entries} {key v : Value} {e : Value × Value}
    (h : e ∈ entries.insert key v) : e.1 = key ∨ ∃ old ∈ entries, e.1 = old.1 := by
  induction entries with
  | nil =>
    obtain rfl : e = (key, v) := by simpa [Entries.insert] using h
    exact .inl rfl
  | cons entry rest ih =>
    obtain ⟨k, old⟩ := entry
    rw [Entries.insert] at h
    split at h
    · rcases List.mem_cons.mp h with rfl | hrest
      · exact .inr ⟨(k, old), List.mem_cons_self, rfl⟩
      · exact .inr ⟨e, List.mem_cons_of_mem _ hrest, rfl⟩
    · rcases List.mem_cons.mp h with rfl | hrest
      · exact .inr ⟨(k, old), List.mem_cons_self, rfl⟩
      · rcases ih hrest with hkey | ⟨found, hmem, hsame⟩
        · exact .inl hkey
        · exact .inr ⟨found, List.mem_cons_of_mem _ hmem, hsame⟩

/-- Each key stands once in a row of fields. -/
def Distinct (fields : List (String × Value)) : Prop := (fields.map Prod.fst).Nodup

/-- Putting a value under a text key keeps the keys that are there, and adds it if it is new. -/
theorem exists_insert_textEntries (fields : List (String × Value)) (key : String) (v : Value) :
    ∃ after, (textEntries fields).insert (.text key) v = textEntries after ∧
      after.map Prod.fst =
        if key ∈ fields.map Prod.fst then fields.map Prod.fst else fields.map Prod.fst ++ [key] := by
  induction fields with
  | nil => exact ⟨[(key, v)], rfl, rfl⟩
  | cons field rest ih =>
    obtain ⟨k, old⟩ := field
    by_cases hk : key = k
    · subst hk
      refine ⟨(key, v) :: rest, ?_, by simp⟩
      simp [textEntries, Entries.insert, Value.equals_text_self]
    · obtain ⟨after, hinsert, hkeys⟩ := ih
      refine ⟨(k, old) :: after, ?_, ?_⟩
      · have hne : (Value.text key).equals (.text k) = false := by simp [Value.equals, hk]
        change Entries.insert ((Value.text k, old) :: textEntries rest) (.text key) v = _
        rw [Entries.insert, hne, hinsert]
        rfl
      · rw [List.map_cons, hkeys]
        by_cases hmem : key ∈ rest.map Prod.fst <;> simp [hk, hmem]

theorem insert_textEntries_of_fresh {fields : List (String × Value)} {key : String}
    (h : key ∉ fields.map Prod.fst) (v : Value) :
    (textEntries fields).insert (.text key) v = textEntries (fields ++ [(key, v)]) := by
  induction fields with
  | nil => rfl
  | cons field rest ih =>
    obtain ⟨k, old⟩ := field
    obtain ⟨hne, hrest⟩ := not_or.mp (by simpa using h : ¬ (key = k ∨ key ∈ rest.map Prod.fst))
    have hequals : (Value.text key).equals (.text k) = false := by simp [Value.equals, hne]
    change Entries.insert ((Value.text k, old) :: textEntries rest) (.text key) v = _
    rw [Entries.insert, hequals, ih hrest]
    rfl

/-- Of a row of pairs with text keys the last one under each key counts. -/
theorem exists_ofPairs_textEntries (fields : List (String × Value)) :
    ∃ kept, Entries.ofPairs (textEntries fields) = textEntries kept ∧ Distinct kept := by
  have hfold : ∀ (rest before : List (String × Value)), Distinct before →
      ∃ kept, (textEntries rest).foldl (fun entries p => Entries.insert entries p.1 p.2)
        (textEntries before) = textEntries kept ∧ Distinct kept := by
    intro rest
    induction rest with
    | nil => exact fun before hbefore => ⟨before, rfl, hbefore⟩
    | cons field rest ih =>
      intro before hbefore
      obtain ⟨after, hinsert, hkeys⟩ := exists_insert_textEntries before field.1 field.2
      have hafter : Distinct after := by
        rw [Distinct, hkeys]
        split
        · exact hbefore
        · rename_i hfresh
          refine List.nodup_append.mpr ⟨hbefore, by simp, ?_⟩
          rintro k hk _ hkey rfl
          exact hfresh (List.mem_singleton.mp hkey ▸ hk)
      obtain ⟨kept, hrest, hkept⟩ := ih after hafter
      refine ⟨kept, ?_, hkept⟩
      rw [← hrest, ← hinsert]
      rfl
  exact hfold fields [] List.nodup_nil

/-- A row in which each key stands once is the row of its own entries. -/
theorem ofPairs_textEntries_of_distinct {fields : List (String × Value)} (h : Distinct fields) :
    Entries.ofPairs (textEntries fields) = textEntries fields := by
  have hfold : ∀ (rest before : List (String × Value)), Distinct (before ++ rest) →
      (textEntries rest).foldl (fun entries p => Entries.insert entries p.1 p.2)
        (textEntries before) = textEntries (before ++ rest) := by
    intro rest
    induction rest with
    | nil => simp [textEntries]
    | cons field rest ih =>
      intro before hdistinct
      have hfresh : field.1 ∉ before.map Prod.fst := by
        intro hmem
        rw [Distinct, List.map_append, List.map_cons] at hdistinct
        exact (List.nodup_append.mp hdistinct).2.2 _ hmem _ List.mem_cons_self rfl
      have hstep := insert_textEntries_of_fresh hfresh field.2
      have hnext := ih (before ++ [field]) (by rwa [List.append_assoc])
      rw [List.append_assoc] at hnext
      rw [← List.singleton_append (l := rest), ← hnext, ← hstep]
      rfl
  exact hfold fields [] h

/-! ### Checks -/

variable {α : Type} {check : Value → Check α} {toValue : α → Value} {lookup : Lookup}

/-- What a check took a value for, it takes for the same when it is given that. -/
def Settles (check : Value → Check α) (toValue : α → Value) : Prop :=
  ∀ v a, check v = .pass a → check (toValue a) = .pass a

theorem settles_anything : Settles anything id := fun _ _ _ => rfl

theorem settles_lenientText : Settles lenientText .text := fun _ _ _ => rfl

theorem settles_lenientInt : Settles lenientInt .int := fun _ _ _ => rfl

theorem settles_lenientBool : Settles lenientBool .bool := fun _ _ _ => rfl

theorem settles_optional (h : Settles check toValue) (hvalue : ∀ a, toValue a ≠ .null) :
    Settles (optional check) (Context.orNull toValue) := by
  intro v a hpass
  cases a with
  | none => rfl
  | some a =>
    have hv : v ≠ .null := by
      rintro rfl
      cases hpass
    rw [optional_of_ne_null hv] at hpass
    obtain ⟨b, hcheck, hb⟩ := map_eq_pass_iff.mp hpass
    obtain rfl := Option.some.inj hb
    rw [Context.orNull, optional_of_ne_null (hvalue b), h v b hcheck]
    rfl

theorem settles_backend : Settles (oneOf Backend.choices) fun b => .text b.name := by
  intro v b _
  cases b <;> rfl

theorem RemoteConfig.check_toRecord (c : RemoteConfig) :
    RemoteConfig.check lookup c.toRecord = .pass c := by
  obtain ⟨dir, transport, hasExecute⟩ := c
  change Check.pass (ofSlots _) = _
  refine congrArg Check.pass ?_
  rw [ofSlots, RemoteConfig.mk.injEq]
  refine ⟨?_, ?_, ?_⟩
  · cases dir <;> rfl
  · cases transport with
    | none => rfl
    | some t => cases t <;> rfl
  · cases hasExecute <;> rfl

theorem settles_remote : Settles (RemoteConfig.check lookup) RemoteConfig.toRecord :=
  fun _ c _ => c.check_toRecord

theorem textKeyed_eq_pass {source entries : Entries} (h : textKeyed source = .pass entries) :
    ∃ fields, entries = textEntries fields := by
  induction source generalizing entries with
  | nil =>
    cases h
    exact ⟨[], rfl⟩
  | cons e rest ih =>
    obtain ⟨k, v⟩ := e
    obtain ⟨_, others, hkey, hrest, rfl⟩ := seq_eq_pass_iff.mp h
    obtain ⟨s, _, rfl⟩ := fmap_eq_pass_iff.mp hkey
    obtain ⟨fields, rfl⟩ := ih hrest
    exact ⟨(s, v) :: fields, rfl⟩

theorem textKeyed_textEntries (fields : List (String × Value)) :
    textKeyed (textEntries fields) = .pass (textEntries fields) := by
  induction fields with
  | nil => rfl
  | cons field rest ih =>
    change (_ <*> textKeyed (textEntries rest) : Check Entries) = _
    rw [ih]
    rfl

/-- A mapping that was taken over is taken over as it is. -/
theorem settles_mappingOf : Settles (mappingOf lookup) .map := by
  intro v entries hpass
  rw [mappingOf] at hpass
  split at hpass
  · rename_i source _
    obtain ⟨pairs, hkeyed, rfl⟩ := map_eq_pass_iff.mp hpass
    obtain ⟨fields, rfl⟩ := textKeyed_eq_pass hkeyed
    obtain ⟨kept, hkept, hdistinct⟩ := exists_ofPairs_textEntries fields
    rw [hkept]
    change (textKeyed (textEntries kept)).map Entries.ofPairs = _
    rw [textKeyed_textEntries, Check.map, ofPairs_textEntries_of_distinct hdistinct]
  · cases hpass

/-! ### Fields -/

/-- How a field that may be left out comes out of what is found for it. -/
def Filled (check : Value → Check α) (fallback : α) : Option Value → α → Prop
  | none, a => a = fallback
  | some v, a => check v = .pass a

theorem withDefault_eq_pass_iff {entries : Entries} {key : String} {fallback a : α} :
    withDefault entries [key] check fallback = .pass a ↔
      Filled check fallback (entries.getText? key) a := by
  rw [withDefault, map_eq_pass_iff, whenGiven, find?]
  cases entries.getText? key with
  | none => simp [find?, Filled, eq_comm]
  | some v => simp [map_eq_pass_iff, under_eq_pass_iff, Filled]

/-- A field is filled alike from what it holds already. -/
theorem Filled.again (hsettles : Settles check toValue) {fallback a : α} {found : Option Value}
    (h : Filled check fallback found a) :
    Filled check fallback (found.map fun _ => toValue a) a := by
  cases found with
  | none => exact h
  | some v => exact hsettles v a h

theorem refuseOthers_eq_pass_iff {used : List String} {entries : Entries} :
    refuseOthers used entries = .pass () ↔ passed used entries = [] := by
  induction entries with
  | nil => simp [refuseOthers, passed]
  | cons e rest ih =>
    obtain ⟨k, w⟩ := e
    rw [passed_cons]
    cases k with
    | text s =>
      by_cases hused : s ∈ used
      · rw [if_neg (by simp [isOther, hused]), ← ih]
        simp [refuseOthers, hused]
      · rw [if_pos (by simp [isOther, hused])]
        simp [refuseOthers, hused, seq_eq_pass_iff, fmap_eq_pass_iff, reject, Check.under]
    | _ =>
      simp [refuseOthers, seq_eq_pass_iff, fmap_eq_pass_iff, reject, Check.under, isOther]

/-- Nothing is left over exactly when every key is one that a field has used. -/
theorem Schema.passed_eq_nil_iff {used : List String} {entries : Entries} :
    passed used entries = [] ↔ ∀ e ∈ entries, ∃ name ∈ used, e.1 = .text name := by
  rw [passed, List.filter_eq_nil_iff]
  refine forall₂_congr fun e _ => ?_
  obtain ⟨k, v⟩ := e
  cases k <;> simp [isOther]

end Playbook
