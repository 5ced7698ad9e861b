import Playbook.Proofs.Schema.Coercion

/-!
What a mapping has to hold for a result to be read from it. Executors spell results in many ways,
and their index stands under one of two names; but nothing below zero is taken for an index or for
a duration, and no key is passed over.
-/

namespace Playbook

open Schema Schema.Check

namespace CommandResult

variable {now : Int} {lookup : Lookup} {entries : Entries} {entry : CommandResult} {v : Value}
  {n : Nat}

theorem checkNatural_eq_pass_iff : checkNatural v = .pass n ↔ lenientInt v = .pass (n : Int) := by
  rw [checkNatural, andThen_eq_pass_iff]
  constructor
  · rintro ⟨m, hread, hrule⟩
    obtain ⟨k, hleast, rfl⟩ := map_eq_pass_iff.mp hrule
    unfold atLeast at hleast
    split at hleast
    · rename_i hsign
      obtain rfl := Check.pass.inj hleast
      rw [hread, Int.toNat_of_nonneg hsign]
    · cases hleast
  · intro hread
    refine ⟨n, hread, ?_⟩
    rw [atLeast, if_pos (Int.natCast_nonneg n)]
    rfl

/-- How many milliseconds a value stands for. -/
inductive Lasts : Value → Nat → Prop
  /-- A double is rounded, a half to the even neighbour; what is below zero then counts as zero. -/
  | rounded {x : Float} {b : Decimal.Binary} (finite : Decimal.readFloat x = .finite b) :
      Lasts (.float x) b.roundHalfEven.toNat
  | whole {v : Value} {n : Nat} (other : ∀ x, v ≠ .float x)
      (reads : lenientInt v = .pass (n : Int)) : Lasts v n

theorem checkDuration_eq_pass_iff : checkDuration v = .pass n ↔ Lasts v n := by
  cases v with
  | float x =>
    cases hread : Decimal.readFloat x with
    | finite b =>
      simp only [checkDuration, hread]
      constructor
      · rintro ⟨⟩
        exact .rounded hread
      · intro h
        cases h with
        | rounded finite =>
          rw [Decimal.Reading.finite.inj (hread.symm.trans finite)]
        | whole other _ => exact absurd rfl (other x)
    | infinite negative | notANumber =>
      simp only [checkDuration, hread, reject, reduceCtorEq, false_iff]
      intro h
      cases h with
      | rounded finite => cases hread.symm.trans finite
      | whole other _ => exact absurd rfl (other x)
  | _ =>
    refine checkNatural_eq_pass_iff.trans ⟨fun h => .whole (by simp) h, fun h => ?_⟩
    cases h
    assumption

/-- A mapping that holds a result. -/
structure Reads (now : Int) (lookup : Lookup) (entries : Entries) (entry : CommandResult) :
    Prop where
  command : ∃ v, entries.getText? "command" = some v ∧ lenientText v = .pass entry.command
  /-- The index stands under either of its names, and is not below zero. -/
  index : ∃ v, (entries.getText? "command_index").or (entries.getText? "commandIndex") = some v ∧
    lenientInt v = .pass (entry.index : Int)
  success : ∃ v, entries.getText? "success" = some v ∧ lenientBool v = .pass entry.success
  duration : (entries.getText? "duration" = none ∧ entry.duration = 0) ∨
    ∃ v, entries.getText? "duration" = some v ∧ Lasts v entry.duration
  error : Filled (optional (CommandError.check now lookup)) none (entries.getText? "error")
    entry.error
  data : entry.data = (entries.getText? "data").getD .null
  /-- No key is left over, so that of the two names for the index only one is there. -/
  declared : ∀ e ∈ entries, ∃ name ∈ usedKeys entries spellings, e.1 = .text name

theorem filled_duration_iff {found : Option Value} :
    Filled checkDuration 0 found n ↔
      (found = none ∧ n = 0) ∨ ∃ v, found = some v ∧ Lasts v n := by
  cases found <;> simp [Filled, checkDuration_eq_pass_iff]

theorem filled_data_iff {found : Option Value} :
    Filled anything .null found v ↔ v = found.getD .null := by
  cases found <;> simp [Filled, anything, eq_comm]

theorem ofEntries_eq_pass_iff :
    ofEntries now lookup entries = .pass entry ↔ Reads now lookup entries entry := by
  simp only [ofEntries, seq_eq_pass_iff, fmap_eq_pass_iff, required_eq_pass_iff, found?_single,
    found?_pair, withDefault_eq_pass_iff, checkNatural_eq_pass_iff, filled_duration_iff,
    filled_data_iff]
  constructor
  · rintro ⟨_, _, ⟨_, _, ⟨_, _, ⟨_, _, ⟨_, _, ⟨_, _, ⟨_, hcommand, rfl⟩, hindex, rfl⟩, hsuccess,
      rfl⟩, hduration, rfl⟩, herror, rfl⟩, hdata, rfl⟩, hothers, rfl⟩
    exact ⟨hcommand, hindex, hsuccess, hduration, herror, hdata,
      passed_eq_nil_iff.mp (refuseOthers_eq_pass_iff.mp hothers)⟩
  · obtain ⟨command, index, success, duration, error, data⟩ := entry
    rintro ⟨hcommand, hindex, hsuccess, hduration, herror, hdata, hdeclared⟩
    exact ⟨_, _, ⟨_, _, ⟨_, _, ⟨_, _, ⟨_, _, ⟨_, _, ⟨_, hcommand, rfl⟩, hindex, rfl⟩, hsuccess,
      rfl⟩, hduration, rfl⟩, herror, rfl⟩, hdata, rfl⟩,
      refuseOthers_eq_pass_iff.mpr (passed_eq_nil_iff.mpr hdeclared), rfl⟩

/-- A value is taken for a result when it is one that was checked before, or a mapping that holds
one. -/
theorem check_eq_pass_iff :
    CommandResult.check now lookup v = .pass entry ↔
      ofRecord? v = some entry ∨
        ∃ entries, v.entries? lookup = some entries ∧ Reads now lookup entries entry := by
  unfold CommandResult.check
  cases hrecord : ofRecord? v with
  | some r =>
    -- A record is no mapping.
    have hnone : v.entries? lookup = none := by
      unfold ofRecord? at hrecord
      split at hrecord
      · rfl
      · cases hrecord
    simp [hnone]
  | none =>
    simp only [reduceCtorEq, false_or, ← ofEntries_eq_pass_iff]
    unfold recordEntries
    cases v.entries? lookup <;> simp [Check.andThen, reject]

end CommandResult

end Playbook
