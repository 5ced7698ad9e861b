import Playbook.Proofs.Json.Laws

/-!
The given writers keep to what is relied on, within any limits. For them a value is written exactly
when nothing in itself is in the way and all of its parts are written. Mapping objects are written
out to a fixed depth; where none is left over that is deep enough, for the parts of an object too.
-/

namespace Playbook.Json

variable {shows : Bool} {v k : Value} {items : List Value} {entries : Entries}
  {slots : List (Slot × Value)} {f g : Handle → Value} {h : Handle}

theorem map_eq_ok_iff {ε α β : Type} {x : Except ε α} {g : α → β} {b : β} :
    x.map g = .ok b ↔ ∃ a, x = .ok a ∧ g a = b := by
  cases x <;> simp [Except.map]

theorem exists_map_ok_iff {ε α β : Type} {x : Except ε α} {g : α → β} :
    (∃ b, x.map g = .ok b) ↔ ∃ a, x = .ok a := by
  cases x <;> simp [Except.map]

theorem ofValues_eq_ok_iff {js : List Json} : ofValues shows items = .ok js ↔
    List.Forall₂ (fun v j => ofValue shows v = .ok j) items js := by
  induction items generalizing js with
  | nil => simp [ofValues, eq_comm]
  | cons v rest ih =>
    rw [ofValues, List.forall₂_cons_left_iff]
    simp only [← ih]
    cases ofValue shows v with
    | error f => simp
    | ok j => cases ofValues shows rest <;> simp [Except.map, eq_comm]

theorem ofSlots_eq_ok_iff {fields : List (String × Json)} : ofSlots shows slots = .ok fields ↔
    List.Forall₂ (fun slot field => field.1 = slot.1.key ∧ ofValue shows slot.2 = .ok field.2)
      slots fields := by
  induction slots generalizing fields with
  | nil => simp [ofSlots, eq_comm]
  | cons slot rest ih =>
    obtain ⟨s, v⟩ := slot
    rw [ofSlots, List.forall₂_cons_left_iff]
    simp only [← ih, Prod.exists]
    cases ofValue shows v with
    | error f => simp
    | ok j => cases ofSlots shows rest <;> simp [Except.map, eq_comm]

/-- Values fit when they have a document, and keys when they have a name. -/
def Fits (shows : Bool) (v : Value) : Prop := ∃ j, ofValue shows v = .ok j

def KeyFits (shows : Bool) (k : Value) : Prop := ∃ name, keyName shows k = .ok name

/-- Nothing in a value itself is in the way of its document, whatever its parts are. -/
def Bare (shows : Bool) : Value → Prop
  | .bytes bs => ∃ t, Text.ofUtf8? bs = some t
  | .map entries => ∀ k ∈ entries.map Prod.fst, KeyFits shows k
  | .frozenMap _ | .callable | .handle _ => shows = true
  | _ => True

theorem exists_bytesText_iff {bs : List UInt8} :
    (∃ t, bytesText bs = .ok t) ↔ ∃ t, Text.ofUtf8? bs = some t := by
  unfold bytesText
  cases Text.ofUtf8? bs <;> simp

theorem exists_objectText_iff : (∃ t, objectText shows v = .ok t) ↔ shows = true := by
  unfold objectText
  cases shows <;> simp

theorem exists_keyNames_iff :
    (∃ names, keyNames shows items = .ok names) ↔ ∀ k ∈ items, KeyFits shows k := by
  induction items with
  | nil => simp [keyNames]
  | cons k rest ih =>
    rw [List.forall_mem_cons, ← ih, keyNames, KeyFits]
    cases keyName shows k with
    | error f => simp
    | ok name => simp [exists_map_ok_iff]

theorem exists_ofValues_iff :
    (∃ js, ofValues shows items = .ok js) ↔ ∀ w ∈ items, Fits shows w := by
  induction items with
  | nil => simp [ofValues]
  | cons v rest ih =>
    rw [List.forall_mem_cons, ← ih, ofValues, Fits]
    cases ofValue shows v with
    | error f => simp
    | ok j => simp [exists_map_ok_iff]

theorem exists_ofSlots_iff :
    (∃ fields, ofSlots shows slots = .ok fields) ↔ ∀ w ∈ slots.map Prod.snd, Fits shows w := by
  induction slots with
  | nil => simp [ofSlots]
  | cons slot rest ih =>
    obtain ⟨s, v⟩ := slot
    rw [List.map_cons, List.forall_mem_cons, ← ih, ofSlots, Fits]
    cases ofValue shows v with
    | error f => simp
    | ok j => simp [exists_map_ok_iff]

theorem exists_ofEntries_iff {fields : List (String × Json)} :
    (∃ found, ofEntries shows entries fields = .ok found) ↔
      (∀ k ∈ entries.map Prod.fst, KeyFits shows k) ∧
        ∀ w ∈ entries.map Prod.snd, Fits shows w := by
  induction entries generalizing fields with
  | nil => simp [ofEntries]
  | cons entry rest ih =>
    obtain ⟨k, v⟩ := entry
    rw [List.map_cons, List.forall_mem_cons, List.map_cons, List.forall_mem_cons, ofEntries,
      and_and_and_comm, KeyFits, Fits]
    cases keyName shows k with
    | error f => simp
    | ok name =>
      cases ofValue shows v with
      | error f => simp
      | ok j => simp [ih]

/-- A value fits when nothing in itself is in the way and its parts fit. -/
theorem fits_iff : Fits shows v ↔ Bare shows v ∧ ∀ w ∈ v.parts, Fits shows w := by
  unfold Fits
  cases v with
  | null | bool | int | float | text | date | moment => simp [ofValue, Bare, Value.parts]
  | bytes bs => simp [ofValue, Bare, Value.parts, exists_map_ok_iff, exists_bytesText_iff]
  | list items | tuple items | set items =>
    simp [ofValue, Bare, Value.parts, exists_map_ok_iff, exists_ofValues_iff, Fits]
  | map entries =>
    simp only [ofValue, exists_map_ok_iff, exists_ofEntries_iff]
    rfl
  | record type slots =>
    simp only [ofValue, exists_map_ok_iff, exists_ofSlots_iff]
    exact (and_iff_right trivial).symm
  | frozenMap | callable | handle =>
    simp [ofValue, Bare, Value.parts, exists_map_ok_iff, exists_objectText_iff]

/-! ### Values with something else in the place of handles -/

theorem mapHandlesAll_eq_map (f : Handle → Value) (items : List Value) :
    mapHandlesAll f items = items.map (·.mapHandles f) := by
  induction items with
  | nil => rfl
  | cons v rest ih => rw [mapHandlesAll, ih, List.map_cons]

theorem mapHandlesEntries_eq_map (f : Handle → Value) (entries : Entries) :
    mapHandlesEntries f entries =
      entries.map fun e => (e.1.mapHandles f, e.2.mapHandles f) := by
  induction entries with
  | nil => rfl
  | cons e rest ih => rw [mapHandlesEntries, ih, List.map_cons]

theorem mapHandlesSlots_eq_map (f : Handle → Value) (slots : List (Slot × Value)) :
    mapHandlesSlots f slots = slots.map fun e => (e.1, e.2.mapHandles f) := by
  induction slots with
  | nil => rfl
  | cons e rest ih => rw [mapHandlesSlots, ih, List.map_cons]

theorem parts_mapHandles (f : Handle → Value) (hv : ∀ h, v ≠ .handle h) :
    (v.mapHandles f).parts = v.parts.map (·.mapHandles f) := by
  cases v with
  | handle h => exact absurd rfl (hv h)
  | list items | tuple items | set items => exact mapHandlesAll_eq_map f items
  | map entries =>
    simp [Value.mapHandles, Value.parts, mapHandlesEntries_eq_map, Function.comp_def]
  | record type slots =>
    simp [Value.mapHandles, Value.parts, mapHandlesSlots_eq_map, Function.comp_def]
  | _ => rfl

/-- As a key, what stands in the place of a handle is opaque. -/
def OpaqueKeys (shows : Bool) (f : Handle → Value) : Prop :=
  ∀ h, KeyFits shows (f h) ↔ shows = true

mutual

theorem keyFits_mapHandles (hf : OpaqueKeys shows f) :
    ∀ k : Value, KeyFits shows (k.mapHandles f) ↔ KeyFits shows k
  | .handle h => (hf h).trans exists_objectText_iff.symm
  | .tuple items => by
    simp only [KeyFits, Value.mapHandles, keyName, exists_map_ok_iff, exists_keyNames_iff]
    exact keysFit_mapHandles hf items
  | .map _ | .frozenMap _ => exists_objectText_iff.trans exists_objectText_iff.symm
  | .record _ _ => ⟨fun _ => ⟨_, rfl⟩, fun _ => ⟨_, rfl⟩⟩
  | .list _ | .set _ => by simp [KeyFits, Value.mapHandles, keyName]
  | .null | .bool _ | .int _ | .float _ | .text _ | .bytes _ | .date _ | .moment _
  | .callable => .rfl

theorem keysFit_mapHandles (hf : OpaqueKeys shows f) : ∀ items : List Value,
    (∀ k ∈ mapHandlesAll f items, KeyFits shows k) ↔ ∀ k ∈ items, KeyFits shows k
  | [] => .rfl
  | k :: rest => by
    rw [mapHandlesAll, List.forall_mem_cons, List.forall_mem_cons, keyFits_mapHandles hf k,
      keysFit_mapHandles hf rest]

end

theorem bare_mapHandles (hf : OpaqueKeys shows f) (hv : ∀ h, v ≠ .handle h) :
    Bare shows (v.mapHandles f) ↔ Bare shows v := by
  cases v with
  | handle h => exact absurd rfl (hv h)
  | map entries =>
    simp only [Value.mapHandles, Bare, mapHandlesEntries_eq_map, List.map_map, List.forall_mem_map,
      Function.comp_apply, keyFits_mapHandles hf]
  | _ => exact .rfl

theorem fits_mapHandles_iff (hf : OpaqueKeys shows f) (hv : ∀ h, v ≠ .handle h) :
    Fits shows (v.mapHandles f) ↔ Bare shows v ∧ ∀ w ∈ v.parts, Fits shows (w.mapHandles f) := by
  rw [fits_iff, bare_mapHandles hf hv, parts_mapHandles f hv]
  simp only [List.forall_mem_map]

/-- Whether a value fits is up to what stands in the place of the handles that its document
shows. -/
theorem fits_mapHandles_congr (hf : OpaqueKeys shows f) (hg : OpaqueKeys shows g)
    (hagree : ∀ h, v.ShowsHandle h → (Fits shows (f h) ↔ Fits shows (g h))) :
    Fits shows (v.mapHandles f) ↔ Fits shows (v.mapHandles g) := by
  induction v using Value.induction_on_parts with
  | step v ih =>
    by_cases hhandle : ∃ h, v = .handle h
    · obtain ⟨h, rfl⟩ := hhandle
      exact hagree h (.here rfl)
    · have hv : ∀ h, v ≠ .handle h := fun h heq => hhandle ⟨h, heq⟩
      rw [fits_mapHandles_iff hf hv, fits_mapHandles_iff hg hv]
      exact and_congr_right fun _ => forall₂_congr fun w hmem =>
        ih w hmem fun h hshows => hagree h (.part hmem hshows)

/-! ### Values among objects -/

section Objects

variable {μ : Type} {s : Store μ} {v w : Value} {h k : Handle} {depth : Nat}

theorem written?_of_lookup_eq_none (hobject : s.lookup h = none) : s.written? h = none := by
  unfold Store.lookup at hobject
  unfold Store.written?
  cases hcell : s.get? h with
  | none => rfl
  | some c => cases hshape : c.shape <;> simp_all [Shape.isMapping]

theorem content_of_written {entries : Entries} (hwritten : s.written? h = some entries) :
    s.content true (depth + 1) h = .map (mapHandlesEntries (s.content true depth) entries) := by
  obtain ⟨c, hcell, hshape, rfl⟩ := Store.written?_eq_some_iff.mp hwritten
  exact Store.content_of_mapping hcell hshape

/-- Nothing is written out of an object that is no mapping which can be changed. -/
theorem content_of_not_written (depth : Nat) (hnone : s.written? h = none) :
    s.content true depth h = .handle h ∨ ∃ entries, s.content true depth h = .frozenMap entries := by
  cases depth with
  | zero => exact .inl rfl
  | succ depth =>
    unfold Store.written? at hnone
    unfold Store.content
    cases hcell : s.get? h with
    | none => exact .inl rfl
    | some c =>
      rw [hcell] at hnone
      cases hshape : c.shape with
      | mapping => simp [hshape] at hnone
      | frozen => cases h <;> simp [hshape]
      | object | sealed => cases h <;> simp [hshape]

theorem fits_content_of_not_written (hnone : s.written? h = none) :
    Fits shows (s.content true depth h) ↔ shows = true := by
  rw [fits_iff]
  rcases content_of_not_written depth hnone with heq | ⟨entries, heq⟩ <;>
    simp [heq, Bare, Value.parts]

theorem opaqueKeys_content (s : Store μ) (depth : Nat) :
    OpaqueKeys shows (s.content true depth) := by
  intro h
  cases hwritten : s.written? h with
  | some entries =>
    cases depth with
    | zero => exact exists_objectText_iff
    | succ depth =>
      rw [content_of_written hwritten]
      exact exists_objectText_iff
  | none =>
    rcases content_of_not_written depth hwritten with heq | ⟨entries, heq⟩ <;>
      exact heq ▸ exists_objectText_iff

theorem leads_iff : s.Leads h k ↔ ∃ entries, s.written? h = some entries ∧
    (Value.map entries).ShowsHandle k := by
  simp [Store.Leads, Store.written?_eq_some_iff, and_assoc]

/-- Where no mapping is left over, whether an object fits is settled. -/
theorem fits_content_succ (hdone : ¬ s.Remains depth h) :
    Fits shows (s.content true (depth + 1) h) ↔ Fits shows (s.content true depth h) := by
  induction depth generalizing h with
  | zero =>
    have hnone : s.written? h = none := written?_of_lookup_eq_none (by
      simpa [Store.Remains, Store.content, Value.holdsHandle] using hdone)
    rw [fits_content_of_not_written hnone, fits_content_of_not_written hnone]
  | succ depth ih =>
    cases hwritten : s.written? h with
    | none => rw [fits_content_of_not_written hwritten, fits_content_of_not_written hwritten]
    | some entries =>
      rw [content_of_written hwritten, content_of_written hwritten]
      exact fits_mapHandles_congr (v := .map entries) (opaqueKeys_content s _)
        (opaqueKeys_content s _) fun k hshows => ih fun hremains =>
          hdone (Store.remains_succ_iff.mpr ⟨k, leads_iff.mpr ⟨_, hwritten, hshows⟩, hremains⟩)

theorem opened_of_not_handle (hv : ∀ h, v ≠ .handle h) : s.opened v = v := by
  cases v with
  | handle h => exact absurd rfl (hv h)
  | _ => rfl

theorem circles_iff : s.Circles h ↔ ∃ k, s.Leads h k ∧ s.Circles k := by
  refine ⟨Store.Circles.exists_leads, ?_⟩
  rintro ⟨k, hleads, last, hreach, hcircle⟩
  exact ⟨last, .head hleads hreach, hcircle⟩

theorem showsHandle_handle_iff : (Value.handle h).ShowsHandle k ↔ k = h := by
  rw [Value.ShowsHandle, Value.shows_iff]
  simp [Value.parts, eq_comm]

/-- A value is circular where one of its parts is. -/
theorem isCircular_iff_parts :
    s.isCircular v = true ↔ ∃ w ∈ s.parts v, s.isCircular w = true := by
  simp only [Store.isCircular_iff, Store.parts]
  by_cases hhandle : ∃ h, v = .handle h
  · obtain ⟨h, rfl⟩ := hhandle
    simp only [showsHandle_handle_iff, exists_eq_left]
    rw [circles_iff]
    cases hwritten : s.written? h with
    | none => simp [leads_iff, hwritten, Store.opened_of_not_written hwritten, Value.parts]
    | some entries =>
      rw [Store.opened_of_written hwritten, ← Value.exists_showsHandle_iff (by simp)]
      simp [leads_iff, hwritten]
  · have hv : ∀ h, v ≠ .handle h := fun h heq => hhandle ⟨h, heq⟩
    rw [opened_of_not_handle hv, Value.exists_showsHandle_iff hv]

theorem isCircular_of_mem_parts (hfree : s.isCircular v = false) (hmem : w ∈ s.parts v) :
    s.isCircular w = false := by
  cases hw : s.isCircular w with
  | false => rfl
  | true => exact (isCircular_iff_parts.mpr ⟨w, hmem, hw⟩).symm.trans hfree

/-- What is written out of a value fits when nothing in itself is in the way and what is written
out of its parts fits. -/
theorem fits_snapshot_iff (hfree : s.isCircular v = false) :
    Fits shows (s.snapshot true v) ↔
      Bare shows (s.opened v) ∧ ∀ w ∈ s.parts v, Fits shows (s.snapshot true w) := by
  unfold Store.snapshot Store.parts
  by_cases hhandle : ∃ h, v = .handle h
  · obtain ⟨h, rfl⟩ := hhandle
    rw [Value.mapHandles]
    cases hwritten : s.written? h with
    | none =>
      rw [Store.opened_of_not_written hwritten, fits_content_of_not_written hwritten]
      simp [Bare, Value.parts]
    | some entries =>
      -- The entries are written out to one level less, which is deep enough for them.
      have hdeep : Fits shows ((Value.map entries).mapHandles (s.content true s.cells.length)) ↔
          Fits shows ((Value.map entries).mapHandles (s.content true (s.cells.length + 1))) :=
        fits_mapHandles_congr (opaqueKeys_content s _) (opaqueKeys_content s _) fun k hshows =>
          (fits_content_succ fun hremains => by
            have hcircular : s.isCircular (.handle h) = true :=
              Store.isCircular_iff_remains.mpr ⟨h, .here rfl, Store.remains_succ_iff.mpr
                ⟨k, leads_iff.mpr ⟨entries, hwritten, hshows⟩, hremains⟩⟩
            rw [hfree] at hcircular
            cases hcircular).symm
      rw [Store.opened_of_written hwritten, content_of_written hwritten]
      exact hdeep.trans (fits_mapHandles_iff (opaqueKeys_content s _) (by simp))
  · have hv : ∀ h, v ≠ .handle h := fun h heq => hhandle ⟨h, heq⟩
    rw [opened_of_not_handle hv]
    exact fits_mapHandles_iff (opaqueKeys_content s _) hv

namespace Encoder

theorem write_eq_ok_iff {j : Json} : (standard shows).write s v = .ok j ↔
    s.isCircular v = false ∧ ofValue shows (s.snapshot true v) = .ok j := by
  simp only [standard]
  cases s.isCircular v <;> simp

theorem writes_standard_iff : (standard shows).Writes s v ↔
    s.isCircular v = false ∧ Fits shows (s.snapshot true v) := by
  simp only [Writes, Fits, write_eq_ok_iff, exists_and_left]

/-- A value is written exactly when nothing in itself is in the way and its parts are written. -/
theorem writes_iff_parts : (standard shows).Writes s v ↔
    Bare shows (s.opened v) ∧ ∀ w ∈ s.parts v, (standard shows).Writes s w := by
  simp only [writes_standard_iff]
  cases hcircular : s.isCircular v with
  | true =>
    obtain ⟨w, hmem, hw⟩ := isCircular_iff_parts.mp hcircular
    simp only [Bool.true_eq_false, false_and, false_iff, not_and]
    exact fun _ hall => Bool.false_ne_true ((hall w hmem).1.symm.trans hw)
  | false =>
    rw [and_iff_right rfl, fits_snapshot_iff hcircular]
    exact and_congr_right fun _ => forall₂_congr fun w hmem =>
      (and_iff_right (isCircular_of_mem_parts hcircular hmem)).symm

theorem write_list_eq_ok {items : List Value} {j : Json}
    (hwritten : (standard shows).write s (.list items) = .ok j) :
    ∃ js, j = .list js ∧
      List.Forall₂ (fun v j => (standard shows).write s v = .ok j) items js := by
  obtain ⟨hfree, hdocument⟩ := write_eq_ok_iff.mp hwritten
  change (ofValues shows (mapHandlesAll _ items)).map .list = .ok j at hdocument
  obtain ⟨js, hrow, rfl⟩ := map_eq_ok_iff.mp hdocument
  rw [ofValues_eq_ok_iff, mapHandlesAll_eq_map, List.forall₂_map_left_iff] at hrow
  simp only [write_eq_ok_iff, List.forall₂_and_left]
  exact ⟨js, rfl, fun w hmem => isCircular_of_mem_parts hfree hmem, hrow⟩

theorem write_record_eq_ok {type : String} {slots : List (Slot × Value)} {j : Json}
    (hwritten : (standard shows).write s (.record type slots) = .ok j) :
    ∃ fields, j = .object fields ∧ List.Forall₂ (fun slot field =>
      field.1 = slot.1.key ∧ (standard shows).write s slot.2 = .ok field.2) slots fields := by
  obtain ⟨hfree, hdocument⟩ := write_eq_ok_iff.mp hwritten
  change (ofSlots shows (mapHandlesSlots _ slots)).map .object = .ok j at hdocument
  obtain ⟨fields, hrow, rfl⟩ := map_eq_ok_iff.mp hdocument
  rw [ofSlots_eq_ok_iff, mapHandlesSlots_eq_map, List.forall₂_map_left_iff] at hrow
  refine ⟨fields, rfl, ?_⟩
  have hslots (slot : Slot × Value) (hmem : slot ∈ slots) : s.isCircular slot.2 = false :=
    isCircular_of_mem_parts hfree (List.mem_map_of_mem hmem)
  have hfields := (List.forall₂_and_left _ _).mpr ⟨hslots, hrow⟩
  exact hfields.imp fun slot field ⟨hslot, hkey, hvalue⟩ =>
    ⟨hkey, write_eq_ok_iff.mpr ⟨hslot, hvalue⟩⟩

/-- The given writers keep to what is relied on, within any limits. -/
theorem standard_laws (shows : Bool) (limits : Limits) :
    (standard shows : Encoder μ).Laws limits where
  null s := rfl
  bool s b := rfl
  int h := (Except.ok.inj h).symm
  text h := (Except.ok.inj h).symm
  list := write_list_eq_ok
  record := write_record_eq_ok
  part hwrites hmem := (writes_iff_parts.mp hwrites).2 _ hmem
  bytes hnone hwrites := by
    obtain ⟨t, hsome⟩ := (writes_iff_parts.mp hwrites).1
    rw [hnone] at hsome
    cases hsome
  keyBytes {s v bs} hkey hnone hwrites := by
    have hbare := (writes_iff_parts.mp hwrites).1
    unfold Store.keys at hkey
    cases hopened : s.opened v with
    | map entries =>
      rw [hopened] at hkey hbare
      obtain ⟨t, hsome⟩ := exists_bytesText_iff.mp (hbare _ hkey)
      rw [hnone] at hsome
      cases hsome
    | _ => simp [hopened] at hkey
  writesInt _ := ⟨_, rfl⟩
  writesText _ := ⟨_, rfl⟩
  writesComposed {s v} hcomposes _ hparts := by
    refine writes_iff_parts.mpr ⟨?_, hparts⟩
    cases hopened : s.opened v with
    | list | tuple | record => exact trivial
    | map entries =>
      rw [hopened] at hcomposes
      intro k hmem
      obtain ⟨e, he, rfl⟩ := List.mem_map.mp hmem
      have hkey := List.all_eq_true.mp hcomposes e he
      split at hkey
      case h_1 t heq => exact ⟨t, by rw [heq]; rfl⟩
      case h_2 => cases hkey
    | _ =>
      rw [hopened] at hcomposes
      cases hcomposes

theorem strict_refusesOpaque : (strict : Encoder μ).RefusesOpaque := by
  intro s v hopaque hwrites
  have hbare := (writes_iff_parts.mp hwrites).1
  cases v with
  | handle h =>
    rw [Store.opened_of_not_written hopaque] at hbare
    cases hbare
  | frozenMap | callable => cases hbare
  | _ => exact hopaque

end Encoder

end Objects

end Playbook.Json
