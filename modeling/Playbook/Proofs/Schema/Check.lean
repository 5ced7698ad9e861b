import Playbook.Schema.Mapping
import Mathlib.Data.List.Forall2

/-!
What checks come to. A check is put together from smaller ones. It passes exactly when all of its
parts do, with what they passed; and it reports what its parts report, one after another, without a
part that keeps another from being looked at.
-/

namespace Playbook.Schema.Check

variable {α β : Type}

/-! ### When a check passes -/

theorem map_eq_pass_iff {f : α → β} {x : Check α} {b : β} :
    x.map f = .pass b ↔ ∃ a, x = .pass a ∧ f a = b := by
  cases x <;> simp [Check.map]

theorem fmap_eq_pass_iff {f : α → β} {x : Check α} {b : β} :
    f <$> x = .pass b ↔ ∃ a, x = .pass a ∧ f a = b :=
  map_eq_pass_iff

theorem seq_eq_pass_iff {f : Check (α → β)} {x : Check α} {b : β} :
    f <*> x = .pass b ↔ ∃ g a, f = .pass g ∧ x = .pass a ∧ g a = b := by
  change Check.seq f x = .pass b ↔ _
  cases f <;> cases x <;> simp [Check.seq]

theorem under_eq_pass_iff {s : Step} {x : Check α} {a : α} :
    x.under s = .pass a ↔ x = .pass a := by
  cases x <;> simp [Check.under]

theorem andThen_eq_pass_iff {x : Check α} {f : α → Check β} {b : β} :
    x.andThen f = .pass b ↔ ∃ a, x = .pass a ∧ f a = .pass b := by
  cases x <;> simp [Check.andThen]

/-- A row passes when each of its items does, and what it passes are theirs, one for each. -/
theorem items_eq_pass_iff {check : Value → Check α} {i : Nat} {row : List Value} {passed : List α} :
    items check i row = .pass passed ↔
      List.Forall₂ (fun v a => check v = .pass a) row passed := by
  induction row generalizing i passed with
  | nil => cases passed <;> simp [items]
  | cons v rest ih =>
    rw [items, seq_eq_pass_iff]
    constructor
    · rintro ⟨_, others, hcons, hrest, rfl⟩
      obtain ⟨a, hhead, rfl⟩ := fmap_eq_pass_iff.mp hcons
      exact .cons (under_eq_pass_iff.mp hhead) (ih.mp hrest)
    · rintro (_ | ⟨hhead, hrest⟩)
      exact ⟨_, _, fmap_eq_pass_iff.mpr ⟨_, under_eq_pass_iff.mpr hhead, rfl⟩, ih.mpr hrest, rfl⟩

/-! ### What a check reports -/

/-- A check reports some issues: it passes when there are none, and else it fails with them. -/
def Reports (x : Check α) (issues : List Issue) : Prop :=
  match x with
  | .pass _ => issues = []
  | .fail found => found = issues ∧ issues ≠ []

section Reports

variable {x : Check α} {issues : List Issue}

theorem Reports.passes_iff (h : x.Reports issues) : (∃ a, x = .pass a) ↔ issues = [] := by
  cases x with
  | pass a => simpa [Reports] using h
  | fail found => simpa using h.2

theorem Reports.eq_fail (h : x.Reports issues) (hsome : issues ≠ []) : x = .fail issues := by
  cases x with
  | pass a => exact absurd h hsome
  | fail found => rw [h.1]

theorem reports_reject (cause : Cause) : (reject (α := α) cause).Reports [⟨[], cause⟩] :=
  ⟨rfl, List.cons_ne_nil _ _⟩

theorem Reports.map (f : α → β) (h : x.Reports issues) : (x.map f).Reports issues := by
  cases x <;> exact h

theorem Reports.fmap (f : α → β) (h : x.Reports issues) : (f <$> x).Reports issues :=
  h.map f

theorem Reports.seq {f : Check (α → β)} {first second : List Issue} (hf : f.Reports first)
    (hx : x.Reports second) : (f <*> x).Reports (first ++ second) := by
  change (Check.seq f x).Reports _
  cases f with
  | pass g =>
    obtain rfl : first = [] := hf
    cases x <;> exact hx
  | fail early =>
    obtain ⟨rfl, hearly⟩ := hf
    cases x with
    | pass a =>
      obtain rfl : second = [] := hx
      simpa [Check.seq, Reports] using hearly
    | fail late =>
      obtain ⟨rfl, _⟩ := hx
      exact ⟨rfl, by simp [hearly]⟩

theorem Reports.under (s : Step) (h : x.Reports issues) :
    (x.under s).Reports (issues.map (Issue.under s)) := by
  cases x with
  | pass a =>
    obtain rfl : issues = [] := h
    rfl
  | fail found =>
    obtain ⟨rfl, hsome⟩ := h
    exact ⟨rfl, by simpa using hsome⟩

/-- The issues of a row: those of each item, under its position. -/
def rowIssues (rule : Value → List Issue) (i : Nat) (row : List Value) : List Issue :=
  (row.zipIdx i).flatMap fun (v, j) => (rule v).map (Issue.under (.index j))

/-- A row reports all of its items, also behind one that fails. -/
theorem reports_items {check : Value → Check α} {rule : Value → List Issue} {row : List Value}
    (hitems : ∀ v ∈ row, (check v).Reports (rule v)) (i : Nat) :
    (items check i row).Reports (rowIssues rule i row) := by
  induction row generalizing i with
  | nil => rfl
  | cons v rest ih =>
    have hhead := (hitems v List.mem_cons_self).under (.index i)
    have hrest := ih (fun w hw => hitems w (List.mem_cons_of_mem v hw)) (i + 1)
    rw [items, rowIssues, List.zipIdx_cons, List.flatMap_cons]
    exact (hhead.fmap _).seq hrest

end Reports

end Playbook.Schema.Check
