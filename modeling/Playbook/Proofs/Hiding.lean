import Playbook.Proofs.Store

/-!
Stores as they look to whoever does not read some names. Attributes and methods under hidden names
are left out; keys of mappings never are, so that mappings stay what they are. Whatever is read or
written under any other name is the same with them and without.
-/

namespace Playbook

variable {μ : Type}

/-- Whether a key is a hidden name. -/
def Value.isHidden (hidden : String → Bool) : Value → Bool
  | .text n => hidden n
  | _ => false

@[simp] theorem Value.isHidden_text (hidden : String → Bool) (n : String) :
    (Value.text n).isHidden hidden = hidden n := rfl

/-- The entries under names that are not hidden. -/
def Entries.seen (hidden : String → Bool) (entries : Entries) : Entries :=
  entries.filter fun e => !e.1.isHidden hidden

def Cell.seen (hidden : String → Bool) (c : Cell μ) : Cell μ where
  shape := c.shape
  fields := if c.shape.isMapping then c.fields else Entries.seen hidden c.fields
  methods := c.methods.filter fun m => !hidden m.1

/-- The store without what its objects have under hidden names. -/
def Store.seen (hidden : String → Bool) (s : Store μ) : Store μ :=
  { s with cells := s.cells.map fun cell => (cell.1, cell.2.seen hidden) }

section Entries

variable {hidden : String → Bool} {name : String}

theorem Entries.getText?_seen (hname : hidden name = false) (entries : Entries) :
    (Entries.seen hidden entries).getText? name = entries.getText? name := by
  induction entries with
  | nil => rfl
  | cons e rest ih =>
    obtain ⟨k, v⟩ := e
    unfold Entries.seen at ih ⊢
    cases k with
    | text n =>
      by_cases hn : n = name
      · subst hn
        simp [hname, Entries.getText?]
      · cases hhidden : hidden n <;> simp [hhidden, Entries.getText?, hn, ih]
    | _ => simpa [Value.isHidden, Entries.getText?] using ih

theorem Entries.insert_seen (hname : hidden name = false) (entries : Entries) (v : Value) :
    (Entries.seen hidden entries).insert (.text name) v =
      Entries.seen hidden (entries.insert (.text name) v) := by
  induction entries with
  | nil => simp [Entries.seen, Entries.insert, hname]
  | cons e rest ih =>
    obtain ⟨k, old⟩ := e
    unfold Entries.seen at ih ⊢
    by_cases hk : (Value.text name).equals k = true
    · have hkey := Value.eq_text_of_equals hk
      subst hkey
      simp [Entries.insert, hname, Value.equals_text_self]
    · cases hhidden : k.isHidden hidden <;>
        simp [Entries.insert, hk, hhidden, ih]

end Entries

namespace Store

variable {hidden : String → Bool} {name : String} {s t : Store μ}

theorem get?_seen (s : Store μ) (h : Handle) :
    (s.seen hidden).get? h = (s.get? h).map (Cell.seen hidden) := by
  unfold seen get?
  dsimp only
  induction s.cells with
  | nil => rfl
  | cons cell rest ih =>
    obtain ⟨k, c⟩ := cell
    by_cases hk : h = k
    · subst hk
      simp
    · have hne : (h == k) = false := by simpa using hk
      simpa [List.lookup_cons, hne] using ih

theorem lookup_seen (hidden : String → Bool) (s : Store μ) : (s.seen hidden).lookup = s.lookup := by
  funext h
  unfold lookup
  rw [get?_seen]
  cases s.get? h with
  | none => rfl
  | some c => cases hshape : c.shape <;> simp [Cell.seen, hshape, Shape.isMapping]

theorem isTruthy_seen (hidden : String → Bool) (s : Store μ) (v : Value) :
    (s.seen hidden).isTruthy v = s.isTruthy v := by
  cases v <;> simp only [isTruthy, lookup_seen]

theorem attribute?_seen (hname : hidden name = false) (s : Store μ) (v : Value) :
    (s.seen hidden).attribute? v name = s.attribute? v name := by
  cases v with
  | handle h =>
    have hmethods {methods : List (String × μ)} :
        (methods.filter fun m => !hidden m.1).lookup name = methods.lookup name := by
      rw [lookup_filter fun key => !hidden key]
      simp [hname]
    unfold attribute?
    dsimp only
    rw [get?_seen]
    cases s.get? h with
    | none => rfl
    | some c =>
      cases hshape : c.shape.isMapping <;>
        simp [Cell.seen, hshape, Entries.getText?_seen hname, hmethods]
  | _ => rfl

theorem field_seen (hname : hidden name = false) (s : Store μ) (v : Value) :
    (s.seen hidden).field v name = s.field v name := by
  unfold field
  rw [lookup_seen, attribute?_seen hname]

theorem putCell_seen (h : Handle) (c : Cell μ) (cells : List (Handle × Cell μ)) :
    putCell h (c.seen hidden) (cells.map fun cell => (cell.1, cell.2.seen hidden)) =
      (putCell h c cells).map fun cell => (cell.1, cell.2.seen hidden) := by
  induction cells with
  | nil => rfl
  | cons cell rest ih =>
    obtain ⟨k, old⟩ := cell
    by_cases hk : k = h <;> simp [putCell, hk, ih]

/-- What is set under a name that is not hidden is set in what is seen. -/
theorem setField?_seen (hname : hidden name = false) (s : Store μ) (v value : Value) :
    (s.seen hidden).setField? v name value =
      (s.setField? v name value).map (Store.seen hidden) := by
  cases v with
  | handle h =>
    unfold setField?
    dsimp only
    rw [get?_seen]
    cases s.get? h with
    | none => rfl
    | some c =>
      obtain ⟨shape, fields, methods⟩ := c
      have hput (c : Cell μ) : (s.seen hidden).put h (c.seen hidden) = (s.put h c).seen hidden := by
        unfold put seen
        rw [putCell_seen]
      cases shape with
      | object =>
        have hcell := hput ⟨.object, fields.insert (.text name) value, methods⟩
        simp only [Cell.seen, Shape.isMapping, Bool.false_eq_true, if_false,
          ← Entries.insert_seen hname] at hcell
        simp only [Option.map_some, Cell.seen, Shape.isMapping, Bool.false_eq_true, if_false, hcell]
      | mapping =>
        have hcell := hput ⟨.mapping, fields.insert (.text name) value, methods⟩
        simp only [Cell.seen, Shape.isMapping, if_true] at hcell
        simp only [Option.map_some, Cell.seen, Shape.isMapping, if_true, hcell]
      | sealed => rfl
      | frozen => rfl
  | _ => rfl

theorem content_seen (hidden : String → Bool) (s : Store μ) (labelled : Bool) (depth : Nat) :
    (s.seen hidden).content labelled depth = s.content labelled depth := by
  induction depth with
  | zero => rfl
  | succ depth ih =>
    funext h
    unfold content
    rw [get?_seen, ih]
    cases s.get? h with
    | none => rfl
    | some c =>
      obtain ⟨shape, fields, methods⟩ := c
      cases shape <;> rfl

theorem snapshot_seen (hidden : String → Bool) (s : Store μ) (labelled : Bool) (v : Value) :
    (s.seen hidden).snapshot labelled v = s.snapshot labelled v := by
  unfold snapshot
  rw [content_seen]
  simp only [seen, List.length_map]

end Store

end Playbook
