import Playbook.Proofs.Template.Occurrence

/-!
Filling in a whole value. Its texts are gone through depth first, and the first one that cannot be
filled in decides how the whole fails. Otherwise each text is replaced in its place, so what comes
out has the shape that the value had, whatever the variables hold.
-/

namespace Playbook

mutual

/-- A value with another text in the place of each of its texts: as many items, the same keys in the
same order, and everything that is no text as it was. Tuples turn into lists, and read-only maps
into plain ones. -/
def Value.mapTexts (f : String → String) : Value → Value
  | .text s => .text (f s)
  | .list items | .tuple items => .list (mapItems f items)
  | .map entries | .frozenMap entries => .map (mapEntries f entries)
  | v => v

def mapItems (f : String → String) : List Value → List Value
  | [] => []
  | v :: rest => v.mapTexts f :: mapItems f rest

def mapEntries (f : String → String) : List (Value × Value) → List (Value × Value)
  | [] => []
  | (k, v) :: rest => (k, v.mapTexts f) :: mapEntries f rest

end

/-- A value without what its texts say. -/
def Value.skeleton (v : Value) : Value := v.mapTexts fun _ => ""

mutual

theorem Value.mapTexts_mapTexts (f g : String → String) :
    ∀ v : Value, (v.mapTexts f).mapTexts g = v.mapTexts (g ∘ f)
  | .list items | .tuple items => congrArg Value.list (mapItems_mapItems f g items)
  | .map entries | .frozenMap entries => congrArg Value.map (mapEntries_mapEntries f g entries)
  | .text _ | .null | .bool _ | .int _ | .float _ | .bytes _ | .set _ | .date _ | .moment _
  | .callable | .handle _ | .record _ _ => rfl

theorem mapItems_mapItems (f g : String → String) :
    ∀ items, mapItems g (mapItems f items) = mapItems (g ∘ f) items
  | [] => rfl
  | v :: rest => by
    rw [mapItems, mapItems, mapItems, v.mapTexts_mapTexts f g, mapItems_mapItems f g rest]

theorem mapEntries_mapEntries (f g : String → String) :
    ∀ entries, mapEntries g (mapEntries f entries) = mapEntries (g ∘ f) entries
  | [] => rfl
  | (k, v) :: rest => by
    rw [mapEntries, mapEntries, mapEntries, v.mapTexts_mapTexts f g, mapEntries_mapEntries f g rest]

end

/-- Other texts leave the skeleton as it was. -/
theorem Value.skeleton_mapTexts (f : String → String) (v : Value) :
    (v.mapTexts f).skeleton = v.skeleton :=
  v.mapTexts_mapTexts f fun _ => ""

namespace Template

variable {α β : Type} {env : Environment} {s var : String} {texts : List String}

/-- What is reported about a text, if it cannot be filled in. -/
def failure? (env : Environment) (s : String) : Option UnsetVariable :=
  match expand env s with
  | .ok _ => none
  | .error e => some e

/-- A text filled in, if that works. -/
def filled (env : Environment) (s : String) : String :=
  match expand env s with
  | .ok t => t
  | .error _ => s

theorem expand_eq_ok_filled (h : failure? env s = none) : expand env s = .ok (filled env s) := by
  cases hexpand : expand env s with
  | ok t => simp [filled, hexpand]
  | error e => simp [failure?, hexpand] at h

/-- The first of several texts that holds a placeholder for a variable that is not set, with the
leftmost such variable in it. -/
def FirstUnsetAmong (env : Environment) (texts : List String) (var : String) : Prop :=
  ∃ before s after, texts = before ++ s :: after ∧ FirstUnset env s.toList var ∧
    ∀ t ∈ before, ∀ other, Mentions t.toList other → valueOf? env other ≠ none

theorem failure?_eq_some_iff : failure? env s = some ⟨var⟩ ↔ FirstUnset env s.toList var := by
  rw [← expand_eq_error_iff, failure?]
  cases expand env s <;> simp

theorem failure?_eq_none_iff :
    failure? env s = none ↔ ∀ other, Mentions s.toList other → valueOf? env other ≠ none := by
  rw [← exists_fill_split_iff, failure?, expand]
  cases fill env (split s.toList) <;> simp [Except.map]

theorem findSome?_failure?_eq_some_iff :
    texts.findSome? (failure? env) = some ⟨var⟩ ↔ FirstUnsetAmong env texts var := by
  simp only [List.findSome?_eq_some_iff, failure?_eq_some_iff, failure?_eq_none_iff,
    FirstUnsetAmong]

/-- What comes of a row of steps with its first failure, if there is one. -/
def settled (failure : Option UnsetVariable) (a : α) : Except UnsetVariable α :=
  match failure with
  | none => .ok a
  | some e => .error e

theorem map_settled (f : α → β) (failure : Option UnsetVariable) (a : α) :
    (settled failure a).map f = settled failure (f a) := by
  cases failure <;> rfl

mutual

/-- A value fails as the first of its texts that does; else every text is filled in. -/
theorem expandValue_eq (env : Environment) : ∀ v : Value,
    expandValue env v = settled (v.texts.findSome? (failure? env)) (v.mapTexts (filled env))
  | .text s => by
    rw [expandValue, Value.texts, Value.mapTexts, List.findSome?_singleton, failure?, filled]
    cases expand env s <;> rfl
  | .list items | .tuple items => by
    rw [expandValue, expandAll_eq env items, map_settled]
    rfl
  | .map entries | .frozenMap entries => by
    rw [expandValue, expandEntries_eq env entries, map_settled]
    rfl
  | .null | .bool _ | .int _ | .float _ | .bytes _ | .set _ | .date _ | .moment _
  | .callable | .handle _ | .record _ _ => rfl

theorem expandAll_eq (env : Environment) : ∀ items,
    expandAll env items =
      settled ((itemTexts items).findSome? (failure? env)) (mapItems (filled env) items)
  | [] => rfl
  | v :: rest => by
    rw [expandAll, expandValue_eq env v, expandAll_eq env rest, itemTexts, mapItems,
      List.findSome?_append]
    -- A failure of the head hides what comes behind it.
    cases v.texts.findSome? (failure? env) with
    | some e => rfl
    | none => exact map_settled _ _ _

theorem expandEntries_eq (env : Environment) : ∀ entries,
    expandEntries env entries =
      settled ((entryTexts entries).findSome? (failure? env)) (mapEntries (filled env) entries)
  | [] => rfl
  | (k, v) :: rest => by
    rw [expandEntries, expandValue_eq env v, expandEntries_eq env rest, entryTexts, mapEntries,
      List.findSome?_append]
    cases v.texts.findSome? (failure? env) with
    | some e => rfl
    | none => exact map_settled _ _ _

end

end Template

end Playbook
