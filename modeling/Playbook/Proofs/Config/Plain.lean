import Playbook.Config.Document

/-!
Plain data: what documents are made of, with no record, object or other opaque thing inside.
Writing plain data out changes nothing about it.
-/

namespace Playbook

mutual

/-- Null, truth values, numbers, text, and lists and mappings of plain data. -/
def Value.isPlain : Value → Bool
  | .null | .bool _ | .int _ | .float _ | .text _ => true
  | .list items => arePlain items
  | .map entries | .frozenMap entries => holdPlain entries
  | _ => false

def arePlain : List Value → Bool
  | [] => true
  | v :: rest => v.isPlain && arePlain rest

def holdPlain : List (Value × Value) → Bool
  | [] => true
  | (k, v) :: rest => k.isPlain && v.isPlain && holdPlain rest

end

theorem isPlain_of_mem {items : List Value} (h : arePlain items = true) {v : Value}
    (hmem : v ∈ items) : v.isPlain = true := by
  induction items with
  | nil => cases hmem
  | cons w rest ih =>
    obtain ⟨hhead, hrest⟩ := Bool.and_eq_true_iff.mp h
    rcases List.mem_cons.mp hmem with rfl | hin
    · exact hhead
    · exact ih hrest hin

theorem isPlain_of_entry {entries : Entries} (h : holdPlain entries = true) {k v : Value}
    (hmem : (k, v) ∈ entries) : k.isPlain = true ∧ v.isPlain = true := by
  induction entries with
  | nil => cases hmem
  | cons e rest ih =>
    simp only [holdPlain, Bool.and_eq_true] at h
    rcases List.mem_cons.mp hmem with rfl | hin
    · exact h.1
    · exact ih h.2 hin

theorem holdPlain_of_subset {entries chosen : Entries} (h : holdPlain entries = true)
    (hsub : ∀ e ∈ chosen, e ∈ entries) : holdPlain chosen = true := by
  induction chosen with
  | nil => rfl
  | cons e rest ih =>
    have hhead := isPlain_of_entry h (hsub e List.mem_cons_self)
    have hrest := ih fun e' he' => hsub e' (List.mem_cons_of_mem e he')
    simp only [holdPlain, hhead.1, hhead.2, hrest, Bool.and_self]

mutual

theorem Value.plain_of_isPlain : ∀ {v : Value}, v.isPlain = true → v.plain = v
  | .null, _ | .bool _, _ | .int _, _ | .float _, _ | .text _, _ | .frozenMap _, _ => rfl
  | .list _, h => congrArg Value.list (plainItems_of_arePlain h)
  | .map _, h => congrArg Value.map (plainEntries_of_holdPlain h)

theorem plainItems_of_arePlain : ∀ {items : List Value}, arePlain items = true →
    plainItems items = items
  | [], _ => rfl
  | v :: rest, h => by
    obtain ⟨hhead, hrest⟩ := Bool.and_eq_true_iff.mp h
    rw [plainItems, Value.plain_of_isPlain hhead, plainItems_of_arePlain hrest]

theorem plainEntries_of_holdPlain : ∀ {entries : List (Value × Value)},
    holdPlain entries = true → plainEntries entries = entries
  | [], _ => rfl
  | (k, v) :: rest, h => by
    simp only [holdPlain, Bool.and_eq_true] at h
    rw [plainEntries, Value.plain_of_isPlain h.1.1, Value.plain_of_isPlain h.1.2,
      plainEntries_of_holdPlain h.2]

end

end Playbook
