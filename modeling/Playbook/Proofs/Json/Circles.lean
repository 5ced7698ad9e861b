import Mathlib.Data.List.Perm.Subperm
import Mathlib.Logic.Relation
import Playbook.Store

/-!
Mappings that hold themselves. A document shows the mapping objects in a value as they are written
out, and a mapping that comes back to itself is never written out in full. Whether there is one is
seen at a fixed depth, since a way through more mappings than there are passes one of them twice.
-/

namespace Playbook

namespace Value

/-- The values that a document shows inside of the one of a value. -/
def parts : Value → List Value
  | .list items | .tuple items | .set items => items
  | .map entries => entries.map Prod.snd
  | .record _ slots => slots.map Prod.snd
  | _ => []

/-- Some value that a document shows, at any depth, is of a kind. -/
inductive Shows (P : Value → Prop) : Value → Prop
  | here {v : Value} (holds : P v) : Shows P v
  | part {v w : Value} (mem : w ∈ v.parts) (inner : Shows P w) : Shows P v

theorem shows_iff {P : Value → Prop} {v : Value} :
    v.Shows P ↔ P v ∨ ∃ w ∈ v.parts, w.Shows P := by
  constructor
  · intro h
    cases h with
    | here holds => exact .inl holds
    | part mem inner => exact .inr ⟨_, mem, inner⟩
  · rintro (holds | ⟨w, mem, inner⟩)
    · exact .here holds
    · exact .part mem inner

/-- A document shows what stands for a handle. -/
def ShowsHandle (v : Value) (h : Handle) : Prop := v.Shows fun w => w = .handle h

/-- What is shown by a value that is no handle itself is shown by its parts. -/
theorem exists_showsHandle_iff {v : Value} {Q : Handle → Prop} (hv : ∀ h, v ≠ .handle h) :
    (∃ h, v.ShowsHandle h ∧ Q h) ↔ ∃ w ∈ v.parts, ∃ h, w.ShowsHandle h ∧ Q h := by
  constructor
  · rintro ⟨h, hshows, hQ⟩
    rcases shows_iff.mp hshows with heq | ⟨w, hmem, hinner⟩
    · exact absurd heq (hv h)
    · exact ⟨w, hmem, h, hinner, hQ⟩
  · rintro ⟨w, hmem, h, hinner, hQ⟩
    exact ⟨h, .part hmem hinner, hQ⟩

end Value

section Handles

variable {p : Handle → Bool} {g : Handle → Value}

mutual

theorem holdsHandle_mapHandles_iff : ∀ v : Value,
    (v.mapHandles g).holdsHandle p = true ↔
      ∃ h, v.ShowsHandle h ∧ (g h).holdsHandle p = true
  | .handle k => by
    constructor
    · exact fun hp => ⟨k, .here rfl, hp⟩
    · rintro ⟨h, hshows, hp⟩
      rcases Value.shows_iff.mp hshows with heq | ⟨w, hmem, _⟩
      · obtain rfl := Value.handle.inj heq
        exact hp
      · cases hmem
  | .list items | .tuple items | .set items => by
    rw [Value.exists_showsHandle_iff (by simp)]
    exact rowHoldsHandle_iff items
  | .map entries => by
    rw [Value.exists_showsHandle_iff (by simp)]
    exact entriesHoldHandle_iff entries
  | .record type slots => by
    rw [Value.exists_showsHandle_iff (by simp)]
    exact slotsHoldHandle_iff slots
  | .null | .bool _ | .int _ | .float _ | .text _ | .bytes _ | .date _ | .moment _ | .frozenMap _
  | .callable => by
    rw [Value.exists_showsHandle_iff (by simp)]
    simp [Value.mapHandles, Value.holdsHandle, Value.parts]

theorem rowHoldsHandle_iff : ∀ items : List Value,
    rowHoldsHandle p (mapHandlesAll g items) = true ↔
      ∃ w ∈ items, ∃ h, w.ShowsHandle h ∧ (g h).holdsHandle p = true
  | [] => by simp [rowHoldsHandle, mapHandlesAll]
  | v :: rest => by
    simp only [rowHoldsHandle, mapHandlesAll, Bool.or_eq_true, holdsHandle_mapHandles_iff v,
      rowHoldsHandle_iff rest, List.mem_cons, exists_eq_or_imp]

theorem entriesHoldHandle_iff : ∀ entries : List (Value × Value),
    entriesHoldHandle p (mapHandlesEntries g entries) = true ↔
      ∃ w ∈ entries.map Prod.snd, ∃ h, w.ShowsHandle h ∧ (g h).holdsHandle p = true
  | [] => by simp [entriesHoldHandle, mapHandlesEntries]
  | (_, v) :: rest => by
    simp only [entriesHoldHandle, mapHandlesEntries, Bool.or_eq_true, holdsHandle_mapHandles_iff v,
      entriesHoldHandle_iff rest, List.map_cons, List.mem_cons, exists_eq_or_imp]

theorem slotsHoldHandle_iff : ∀ slots : List (Slot × Value),
    slotsHoldHandle p (mapHandlesSlots g slots) = true ↔
      ∃ w ∈ slots.map Prod.snd, ∃ h, w.ShowsHandle h ∧ (g h).holdsHandle p = true
  | [] => by simp [slotsHoldHandle, mapHandlesSlots]
  | (_, v) :: rest => by
    simp only [slotsHoldHandle, mapHandlesSlots, Bool.or_eq_true, holdsHandle_mapHandles_iff v,
      slotsHoldHandle_iff rest, List.map_cons, List.mem_cons, exists_eq_or_imp]

end

end Handles

namespace Store

open Relation

variable {μ : Type} {s : Store μ} {v : Value} {h k : Handle} {depth : Nat}

/-- A mapping object leads to the handles that its document shows. -/
def Leads (s : Store μ) (h k : Handle) : Prop :=
  ∃ c, s.get? h = some c ∧ c.shape = .mapping ∧ (Value.map c.fields).ShowsHandle k

/-- From an object one comes to a mapping that holds itself, directly or through others. -/
def Circles (s : Store μ) (h : Handle) : Prop :=
  ∃ k, ReflTransGen s.Leads h k ∧ TransGen s.Leads k k

/-- A mapping object is left over in what is written out of an object down to a depth. -/
def Remains (s : Store μ) (depth : Nat) (h : Handle) : Prop :=
  (s.content true depth h).holdsHandle (fun k => (s.lookup k).isSome) = true

theorem isCircular_iff_remains :
    s.isCircular v = true ↔ ∃ h, v.ShowsHandle h ∧ s.Remains (s.cells.length + 1) h :=
  holdsHandle_mapHandles_iff v

theorem content_of_mapping {c : Cell μ} (hcell : s.get? h = some c) (hshape : c.shape = .mapping) :
    s.content true (depth + 1) h = .map (mapHandlesEntries (s.content true depth) c.fields) := by
  cases h <;> simp [content, hcell, hshape]

/-- Nothing is left over of what is no mapping that can be changed. -/
theorem not_remains_succ (hnone : ∀ c, s.get? h = some c → c.shape ≠ .mapping) :
    ¬ s.Remains (depth + 1) h := by
  unfold Remains
  cases hcell : s.get? h with
  | none => cases h <;> simp [content, hcell, Value.holdsHandle, lookup]
  | some c =>
    cases hshape : c.shape with
    | mapping => exact absurd hshape (hnone c hcell)
    | frozen | object | sealed =>
      cases h <;> simp [content, hcell, hshape, Value.holdsHandle, lookup, Shape.isMapping]

theorem remains_succ_iff : s.Remains (depth + 1) h ↔ ∃ k, s.Leads h k ∧ s.Remains depth k := by
  by_cases hmapping : ∃ c, s.get? h = some c ∧ c.shape = .mapping
  · obtain ⟨c, hcell, hshape⟩ := hmapping
    have hleads (k : Handle) : s.Leads h k ↔ (Value.map c.fields).ShowsHandle k := by
      simp [Leads, hcell, hshape]
    rw [Remains, content_of_mapping hcell hshape]
    simp only [hleads]
    exact holdsHandle_mapHandles_iff (.map c.fields)
  · refine iff_of_false (not_remains_succ fun c hcell hshape => hmapping ⟨c, hcell, hshape⟩) ?_
    rintro ⟨k, ⟨c, hcell, hshape, _⟩, _⟩
    exact hmapping ⟨c, hcell, hshape⟩

theorem mem_cells_of_leads (hleads : s.Leads h k) : h ∈ s.cells.map Prod.fst := by
  obtain ⟨c, hcell, _, _⟩ := hleads
  obtain ⟨before, after, hcells, _⟩ := List.lookup_eq_some_iff.mp hcell
  simp [hcells]

/-- Where a mapping is left over, a way of that many mappings has been gone. -/
theorem exists_way (hremains : s.Remains depth h) :
    ∃ way : List Handle, way.length = depth ∧ (∀ k ∈ way, k ∈ s.cells.map Prod.fst) ∧
      way.Pairwise (TransGen s.Leads) ∧ ∀ k ∈ way, ReflTransGen s.Leads h k := by
  induction depth generalizing h with
  | zero => exact ⟨[], rfl, by simp, .nil, by simp⟩
  | succ depth ih =>
    obtain ⟨next, hleads, hmore⟩ := remains_succ_iff.mp hremains
    obtain ⟨way, hlength, hcells, hpairs, hreach⟩ := ih hmore
    refine ⟨h :: way, by rw [List.length_cons, hlength], ?_, ?_, ?_⟩
    · exact List.forall_mem_cons.mpr ⟨mem_cells_of_leads hleads, hcells⟩
    · exact List.pairwise_cons.mpr ⟨fun k hk => .head' hleads (hreach k hk), hpairs⟩
    · exact List.forall_mem_cons.mpr ⟨.refl, fun k hk => .head hleads (hreach k hk)⟩

/-- A way through more mappings than there are passes one of them twice. -/
theorem circles_of_remains (hremains : s.Remains (s.cells.length + 1) h) : s.Circles h := by
  obtain ⟨way, hlength, hcells, hpairs, hreach⟩ := exists_way hremains
  by_contra hnone
  have hdistinct : way.Nodup := by
    refine hpairs.imp_of_mem fun hk _ hway => ?_
    rintro rfl
    exact hnone ⟨_, hreach _ hk, hway⟩
  have hfew := (hdistinct.subperm hcells).length_le
  rw [List.length_map, hlength] at hfew
  omega

theorem Circles.exists_leads (hcircles : s.Circles h) : ∃ k, s.Leads h k ∧ s.Circles k := by
  obtain ⟨k, hreach, hcircle⟩ := hcircles
  rcases hreach.cases_head with rfl | ⟨next, hleads, hmore⟩
  · obtain ⟨next, hleads, hback⟩ := TransGen.head'_iff.mp hcircle
    exact ⟨next, hleads, h, hback, hcircle⟩
  · exact ⟨next, hleads, k, hmore, hcircle⟩

/-- On a circle there is always a further mapping. -/
theorem Circles.remains (hcircles : s.Circles h) (depth : Nat) : s.Remains depth h := by
  induction depth generalizing h with
  | zero =>
    obtain ⟨k, ⟨c, hcell, hshape, _⟩, _⟩ := hcircles.exists_leads
    simp [Remains, content, Value.holdsHandle, lookup, hcell, hshape, Shape.isMapping]
  | succ depth ih =>
    obtain ⟨k, hleads, hmore⟩ := hcircles.exists_leads
    exact remains_succ_iff.mpr ⟨k, hleads, ih hmore⟩

/-- A value is circular when it shows an object from which one comes to a mapping that holds
itself. -/
theorem isCircular_iff : s.isCircular v = true ↔ ∃ h, v.ShowsHandle h ∧ s.Circles h := by
  rw [isCircular_iff_remains]
  constructor
  · rintro ⟨h, hshows, hremains⟩
    exact ⟨h, hshows, circles_of_remains hremains⟩
  · rintro ⟨h, hshows, hcircles⟩
    exact ⟨h, hshows, hcircles.remains _⟩

end Store

end Playbook
