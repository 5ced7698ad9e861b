import Playbook.Proofs.Engine.Events
import Playbook.Proofs.Schema.Coercion

/-!
Stores with other shapes. Of some chosen handles those that are objects with attributes become
mappings, with their fields as keys and with the same methods. Whatever is written is written alike.
What is read under a name is the same too, unless the name is that of a method for a reader of
fields, or that of a field for a caller of methods. A handle that has no field at all counts as
false once it is a mapping, and a mapping is written out where an object stays a handle.
-/

namespace Playbook

variable {μ : Type}

/-- The cell under a handle, as a mapping if the handle is chosen and the cell is an object. -/
def Cell.reshaped (chosen : Handle → Bool) (h : Handle) (c : Cell μ) : Cell μ :=
  { c with shape := if chosen h && c.shape == .object then .mapping else c.shape }

/-- The names that fields of handles are read and written under in a run. -/
def fieldNames : List String :=
  ["location", "href", "url", "newWindow", "new_window", "happyDOM", "happy_dom",
    "request_result", "requestResult", "remapper"]

/-- No method is named like a field that is read. -/
def Cell.Interchangeable (c : Cell μ) : Prop :=
  ∀ name ∈ fieldNames, c.methods.lookup name = none

instance (c : Cell μ) : Decidable c.Interchangeable :=
  inferInstanceAs (Decidable (∀ name ∈ fieldNames, c.methods.lookup name = none))

/-- The names of what a window shows to be aborted. -/
def abortKeys : List String := ["happyDOM", "happy_dom"]

namespace Store

/-- The store with the chosen handles as mappings, as far as they are objects. -/
def reshaped (chosen : Handle → Bool) (s : Store μ) : Store μ :=
  { s with cells := s.cells.map fun cell => (cell.1, cell.2.reshaped chosen cell.1) }

/-- The cell of a value that changes its shape. -/
def changing? (chosen : Handle → Bool) (s : Store μ) : Value → Option (Cell μ)
  | .handle h => if chosen h then (s.get? h).filter fun c => c.shape == .object else none
  | _ => none

/-- A value changes its shape and has no fields. -/
def Blank (chosen : Handle → Bool) (s : Store μ) (v : Value) : Prop :=
  ∃ c, s.changing? chosen v = some c ∧ c.fields = []

/-- A value changes its shape and has a field under a name. -/
def Hides (chosen : Handle → Bool) (s : Store μ) (v : Value) (name : String) : Prop :=
  ∃ c, s.changing? chosen v = some c ∧ c.fields.getText? name ≠ none

/-- A store whose chosen objects show the same fields in either shape. -/
def Reshapable (chosen : Handle → Bool) (s : Store μ) : Prop :=
  ∀ v c, s.changing? chosen v = some c → c.Interchangeable

/-- A window that is released alike in either shape: what it shows to be aborted counts as true in
both or in neither, and no field stands where a method is called. -/
structure ReleasedAlike (chosen : Handle → Bool) (s : Store μ) (window : Value) : Prop where
  shows : ¬ s.Blank chosen (s.field window "happyDOM")
  entries : ∀ key ∈ abortKeys, ¬ s.Hides chosen (s.field window key) "abort"
  window : ¬ s.Hides chosen window "close"

variable {chosen : Handle → Bool} {s : Store μ} {v : Value} {c : Cell μ} {name : String}

theorem get?_reshaped (chosen : Handle → Bool) (s : Store μ) (h : Handle) :
    (s.reshaped chosen).get? h = (s.get? h).map (Cell.reshaped chosen h) := by
  unfold reshaped get?
  dsimp only
  induction s.cells with
  | nil => rfl
  | cons cell rest ih =>
    obtain ⟨k, c⟩ := cell
    by_cases hk : h = k
    · subst hk
      simp
    · have hne : (h == k) = false := by simpa using hk
      simpa [List.lookup_cons, hne] using ih

/-- A value that changes its shape is a handle to an object. -/
theorem changing?_eq_some_iff :
    s.changing? chosen v = some c ↔
      ∃ h, v = .handle h ∧ chosen h = true ∧ s.get? h = some c ∧ c.shape = .object := by
  cases v with
  | handle h =>
    cases hchosen : chosen h <;> simp [changing?, hchosen, Option.filter_eq_some_iff]
  | _ => simp [changing?]

theorem get?_of_changing {h : Handle} (hchange : s.changing? chosen (.handle h) = some c) :
    s.get? h = some c ∧ c.shape = .object ∧
      (s.reshaped chosen).get? h = some { c with shape := .mapping } := by
  obtain ⟨k, hk, hchosen, hcell, hshape⟩ := changing?_eq_some_iff.mp hchange
  obtain rfl := Value.handle.inj hk
  refine ⟨hcell, hshape, ?_⟩
  simp [get?_reshaped, hcell, hchosen, Cell.reshaped, hshape]

/-- The cells of all other handles are the same. -/
theorem get?_reshaped_of_not_changing {h : Handle}
    (hsame : s.changing? chosen (.handle h) = none) :
    (s.reshaped chosen).get? h = s.get? h := by
  rw [get?_reshaped]
  cases hcell : s.get? h with
  | none => rfl
  | some c =>
    have hshape : (chosen h && c.shape == .object) = false := by
      cases hchosen : chosen h
      · rfl
      · simpa [changing?, hchosen, hcell] using hsame
    simp [Cell.reshaped, hshape]

/-! ### Reading -/

theorem entries?_of_changing (h : s.changing? chosen v = some c) :
    v.entries? s.lookup = none ∧ v.entries? (s.reshaped chosen).lookup = some c.fields := by
  obtain ⟨k, rfl, _⟩ := changing?_eq_some_iff.mp h
  obtain ⟨hcell, hshape, hreshaped⟩ := get?_of_changing h
  unfold Value.entries? lookup
  constructor
  · simp [hcell, hshape, Shape.isMapping]
  · simp [hreshaped, Shape.isMapping]

theorem entries?_of_not_changing (h : s.changing? chosen v = none) :
    v.entries? (s.reshaped chosen).lookup = v.entries? s.lookup := by
  cases v with
  | handle k =>
    unfold Value.entries? lookup
    dsimp only
    rw [get?_reshaped_of_not_changing h]
  | _ => rfl

theorem attribute?_of_changing (h : s.changing? chosen v = some c) (name : String) :
    s.attribute? v name =
        ((c.fields.getText? name).map .plain).or ((c.methods.lookup name).map .method) ∧
      (s.reshaped chosen).attribute? v name = (c.methods.lookup name).map .method := by
  obtain ⟨k, rfl, _⟩ := changing?_eq_some_iff.mp h
  obtain ⟨hcell, hshape, hreshaped⟩ := get?_of_changing h
  unfold attribute?
  constructor
  · cases hfield : c.fields.getText? name <;> simp [hcell, hshape, Shape.isMapping, hfield]
  · simp [hreshaped, Shape.isMapping]

theorem attribute?_of_not_changing (h : s.changing? chosen v = none) (name : String) :
    (s.reshaped chosen).attribute? v name = s.attribute? v name := by
  cases v with
  | handle k =>
    unfold attribute?
    dsimp only
    rw [get?_reshaped_of_not_changing h]
  | _ => rfl

theorem field_reshaped (hs : s.Reshapable chosen) (hname : name ∈ fieldNames)
    (v : Value) : (s.reshaped chosen).field v name = s.field v name := by
  unfold field
  cases hchange : s.changing? chosen v with
  | none => rw [entries?_of_not_changing hchange, attribute?_of_not_changing hchange]
  | some c =>
    obtain ⟨hentries, hentries'⟩ := entries?_of_changing hchange
    have hnone := hs v c hchange name hname
    rw [hentries, hentries', (attribute?_of_changing hchange name).1, hnone]
    dsimp only
    cases c.fields.getText? name <;> rfl

theorem presentAttribute?_reshaped (hfield : ¬ s.Hides chosen v name) :
    (s.reshaped chosen).presentAttribute? v name = s.presentAttribute? v name := by
  unfold presentAttribute?
  cases hchange : s.changing? chosen v with
  | none => rw [attribute?_of_not_changing hchange]
  | some c =>
    have hnone : c.fields.getText? name = none := by
      by_contra hsome
      exact hfield ⟨c, hchange, hsome⟩
    obtain ⟨hread, hread'⟩ := attribute?_of_changing hchange name
    rw [hread, hread', hnone]
    rfl

theorem isTruthy_handle (s : Store μ) (h : Handle) :
    s.isTruthy (.handle h) =
      (((Value.handle h).entries? s.lookup).map fun entries => !entries.isEmpty).getD true := by
  have hentries : (Value.handle h).entries? s.lookup = s.lookup h := rfl
  rw [hentries]
  cases hlookup : s.lookup h <;> simp [isTruthy, hlookup]

theorem isTruthy_reshaped (hblank : ¬ s.Blank chosen v) :
    (s.reshaped chosen).isTruthy v = s.isTruthy v := by
  cases v with
  | handle h =>
    rw [isTruthy_handle, isTruthy_handle]
    cases hchange : s.changing? chosen (.handle h) with
    | none => rw [entries?_of_not_changing hchange]
    | some c =>
      obtain ⟨hentries, hentries'⟩ := entries?_of_changing hchange
      have hsome : c.fields ≠ [] := fun hnil => hblank ⟨c, hchange, hnil⟩
      rw [hentries, hentries']
      simpa using hsome
  | _ => rfl

/-! ### Writing -/

theorem put_reshaped (chosen : Handle → Bool) (s : Store μ) (h : Handle) (c : Cell μ) :
    (s.reshaped chosen).put h (c.reshaped chosen h) = (s.put h c).reshaped chosen := by
  have hcells (cells : List (Handle × Cell μ)) :
      putCell h (c.reshaped chosen h)
          (cells.map fun cell => (cell.1, cell.2.reshaped chosen cell.1)) =
        (putCell h c cells).map fun cell => (cell.1, cell.2.reshaped chosen cell.1) := by
    induction cells with
    | nil => rfl
    | cons cell rest ih =>
      obtain ⟨k, old⟩ := cell
      by_cases hk : k = h
      · subst hk
        simp [putCell]
      · simp [putCell, hk, ih]
  unfold put reshaped
  rw [hcells]

theorem setField?_reshaped (chosen : Handle → Bool) (s : Store μ) (v value : Value)
    (name : String) :
    (s.reshaped chosen).setField? v name value =
      (s.setField? v name value).map (reshaped chosen) := by
  cases v with
  | handle h =>
    unfold setField?
    dsimp only
    rw [get?_reshaped]
    cases s.get? h with
    | none => rfl
    | some c =>
      have hput := put_reshaped chosen s h { c with fields := c.fields.insert (.text name) value }
      obtain ⟨shape, fields, methods⟩ := c
      cases hchosen : chosen h <;> cases shape <;>
        simp_all [Cell.reshaped]
  | _ => rfl

/-! ### Putting cells -/

theorem get?_put (s : Store μ) (h k : Handle) (c : Cell μ) :
    (s.put h c).get? k = if k = h then some c else s.get? k := by
  unfold get? put
  dsimp only
  induction s.cells with
  | nil =>
    by_cases hk : k = h
    · simp [putCell, hk]
    · have hne : (k == h) = false := by simpa using hk
      simp [putCell, List.lookup_cons, hk, hne]
  | cons cell rest ih =>
    obtain ⟨other, old⟩ := cell
    by_cases hother : other = h
    · subst hother
      by_cases hk : k = other
      · simp [putCell, hk]
      · have hne : (k == other) = false := by simpa using hk
        simp [putCell, List.lookup_cons, hk, hne]
    · by_cases hk : k = other
      · subst hk
        simp [putCell, hother]
      · have hne : (k == other) = false := by simpa using hk
        simpa [putCell, hother, List.lookup_cons, hne] using ih

theorem changing?_put {h : Handle} {d : Cell μ}
    (hchange : (s.put h c).changing? chosen v = some d) :
    (v = .handle h ∧ d = c ∧ chosen h = true ∧ c.shape = .object) ∨
      s.changing? chosen v = some d := by
  obtain ⟨k, rfl, hchosen, hcell, hshape⟩ := changing?_eq_some_iff.mp hchange
  rw [get?_put] at hcell
  split at hcell
  · rename_i hk
    obtain rfl := Option.some.inj hcell
    exact .inl ⟨congrArg Value.handle hk, rfl, hk ▸ hchosen, hshape⟩
  · exact .inr (changing?_eq_some_iff.mpr ⟨k, rfl, hchosen, hcell, hshape⟩)

/-- A cell can be put anywhere, if it is read alike in either shape. -/
theorem Reshapable.put (hs : s.Reshapable chosen) {h : Handle}
    (hcell : chosen h = true → c.shape = .object → c.Interchangeable) :
    (s.put h c).Reshapable chosen := by
  intro v d hchange
  rcases changing?_put hchange with ⟨_, rfl, hchosen, hshape⟩ | hold
  · exact hcell hchosen hshape
  · exact hs v d hold

theorem setField?_eq_put {t : Store μ} {owner value : Value}
    (hset : s.setField? owner name value = some t) :
    ∃ h own, owner = .handle h ∧ s.get? h = some own ∧
      t = s.put h { own with fields := own.fields.insert (.text name) value } := by
  cases owner with
  | handle h =>
    unfold setField? at hset
    dsimp only at hset
    cases hown : s.get? h with
    | none => simp [hown] at hset
    | some own =>
      rw [hown] at hset
      dsimp only at hset
      split at hset <;> cases hset <;> exact ⟨h, own, rfl, hown, rfl⟩
  | _ => cases hset

/-- A remapper can be set on any handle. -/
theorem Reshapable.setField? {t : Store μ} {owner value : Value} (hs : s.Reshapable chosen)
    (hset : s.setField? owner name value = some t) : t.Reshapable chosen := by
  obtain ⟨h, own, rfl, hown, rfl⟩ := setField?_eq_put hset
  exact hs.put fun hchosen hshape =>
    hs (.handle h) own (changing?_eq_some_iff.mpr ⟨h, rfl, hchosen, hown, hshape⟩)

/-! ### Windows and sessions -/

section Readers

variable (hs : s.Reshapable chosen)

include hs

theorem windowUrl?_reshaped (window : Value) :
    (s.reshaped chosen).windowUrl? window = s.windowUrl? window := by
  unfold windowUrl?
  rw [field_reshaped hs (by decide) window, field_reshaped hs (by decide),
    field_reshaped hs (by decide)]

theorem newWindow_reshaped (data : Value) :
    (s.reshaped chosen).newWindow data = s.newWindow data := by
  unfold newWindow
  rw [field_reshaped hs (by decide), field_reshaped hs (by decide)]

theorem sessionState_reshaped (window : Value) :
    (s.reshaped chosen).sessionState window = s.sessionState window := by
  unfold sessionState
  rw [field_reshaped hs (by decide), field_reshaped hs (by decide)]

theorem releaser?_reshaped {window : Value} (hwindow : s.ReleasedAlike chosen window) :
    (s.reshaped chosen).releaser? window = s.releaser? window := by
  have habort : (s.reshaped chosen).abortEntry window = s.abortEntry window := by
    unfold abortEntry
    rw [field_reshaped hs (by decide), field_reshaped hs (by decide),
      isTruthy_reshaped hwindow.shows]
  have hentry : ¬ s.Hides chosen (s.abortEntry window) "abort" := by
    unfold abortEntry
    split
    · exact hwindow.entries _ (by decide)
    · exact hwindow.entries _ (by decide)
  unfold releaser?
  rw [habort, presentAttribute?_reshaped hentry, presentAttribute?_reshaped hwindow.window]

end Readers

end Store

/-! ### Outcomes -/

open Schema Schema.Check

/-- What a value holds under a key, if it is a mapping; null when there is nothing. -/
def Value.entry (lookup : Lookup) (v : Value) (key : String) : Value :=
  ((v.entries? lookup).bind fun entries => entries.getText? key).getD .null

/-- The parts of an outcome that are read as records: the outcome, its error, and where that error
happened. -/
def Value.recordParts (lookup : Lookup) (v : Value) : List Value :=
  let error := v.entry lookup "error"
  [v, error, error.entry lookup "context"]

section Outcomes

variable {lookup lookup' : Lookup} {now : Int}

theorem withDefault_congr {α : Type} {entries : Entries} {key : String}
    {check check' : Value → Check α}
    (h : ∀ w, entries.getText? key = some w → check' w = check w) (fallback : α) :
    withDefault entries [key] check' fallback = withDefault entries [key] check fallback := by
  unfold withDefault whenGiven find?
  cases hfound : entries.getText? key with
  | none => rfl
  | some w =>
    dsimp only
    rw [h w hfound]

theorem recordEntries_congr (h : v.entries? lookup' = v.entries? lookup) (type : String) :
    recordEntries lookup' type v = recordEntries lookup type v := by
  unfold recordEntries
  rw [h]

theorem ErrorContext.check_congr {v : Value} (h : v.entries? lookup' = v.entries? lookup) :
    ErrorContext.check now lookup' v = ErrorContext.check now lookup v := by
  unfold ErrorContext.check
  split
  · rfl
  · rw [recordEntries_congr h]

theorem CommandError.check_congr {v : Value} (h : v.entries? lookup' = v.entries? lookup)
    (hcontext : (v.entry lookup "context").entries? lookup' =
      (v.entry lookup "context").entries? lookup) :
    CommandError.check now lookup' v = CommandError.check now lookup v := by
  have hentries {entries : Entries} (hv : v.entries? lookup = some entries) :
      ofEntries now lookup' entries = ofEntries now lookup entries := by
    have hread : withDefault entries ["context"] (ErrorContext.check now lookup') ⟨"", now⟩ =
        withDefault entries ["context"] (ErrorContext.check now lookup) ⟨"", now⟩ := by
      refine withDefault_congr (fun w hw => ErrorContext.check_congr ?_) _
      simpa [Value.entry, hv, hw] using hcontext
    unfold ofEntries
    rw [hread]
  unfold CommandError.check
  split
  · rfl
  · rw [recordEntries_congr h]
    unfold recordEntries
    cases hv : v.entries? lookup with
    | none => rfl
    | some entries =>
      dsimp only [Check.andThen]
      rw [hentries hv]

/-- An outcome is checked alike by all who see the same in the parts of it that are records. -/
theorem CommandResult.check_congr {v : Value}
    (h : ∀ part ∈ v.recordParts lookup, part.entries? lookup' = part.entries? lookup) :
    CommandResult.check now lookup' v = CommandResult.check now lookup v := by
  have hself : v.entries? lookup' = v.entries? lookup := h v (by simp [Value.recordParts])
  have herror := h (v.entry lookup "error") (by simp [Value.recordParts])
  have hcontext := h ((v.entry lookup "error").entry lookup "context")
    (by simp [Value.recordParts])
  have hentries {entries : Entries} (hv : v.entries? lookup = some entries) :
      ofEntries now lookup' entries = ofEntries now lookup entries := by
    have hread : withDefault entries ["error"] (optional (CommandError.check now lookup')) none =
        withDefault entries ["error"] (optional (CommandError.check now lookup)) none := by
      refine withDefault_congr (fun w hw => ?_) _
      have hw' : v.entry lookup "error" = w := by simp [Value.entry, hv, hw]
      rw [hw'] at herror hcontext
      have hsame : CommandError.check now lookup' w = CommandError.check now lookup w :=
        CommandError.check_congr herror hcontext
      cases w with
      | null => rfl
      | _ => exact congrArg (Check.map some) hsame
    unfold ofEntries
    rw [hread]
  unfold CommandResult.check
  rw [recordEntries_congr hself]
  unfold recordEntries
  cases hv : v.entries? lookup with
  | none => rfl
  | some entries =>
    dsimp only [Check.andThen]
    rw [hentries hv]

end Outcomes

/-! ### Values written out -/

mutual

/-- Whether a value holds a handle of some kind. -/
def Value.holds (p : Handle → Bool) : Value → Bool
  | .handle h => p h
  | .list items | .tuple items | .set items => itemsHold p items
  | .map entries | .frozenMap entries => entriesHold p entries
  | .record _ slots => slotsHold p slots
  | _ => false

def itemsHold (p : Handle → Bool) : List Value → Bool
  | [] => false
  | v :: rest => v.holds p || itemsHold p rest

def entriesHold (p : Handle → Bool) : List (Value × Value) → Bool
  | [] => false
  | (k, v) :: rest => k.holds p || v.holds p || entriesHold p rest

def slotsHold (p : Handle → Bool) : List (Slot × Value) → Bool
  | [] => false
  | (_, v) :: rest => v.holds p || slotsHold p rest

end

section WrittenOut

variable {p : Handle → Bool} {f g : Handle → Value}

mutual

/-- Two ways to write a value out agree on it when they agree wherever none of some handles is
left. -/
theorem Value.mapHandles_congr (hagree : ∀ h, (f h).holds p = false → g h = f h) :
    ∀ {v : Value}, (v.mapHandles f).holds p = false → v.mapHandles g = v.mapHandles f
  | .handle h, hclear => hagree h hclear
  | .list _, hclear => congrArg Value.list (mapHandlesAll_congr hagree hclear)
  | .tuple _, hclear => congrArg Value.tuple (mapHandlesAll_congr hagree hclear)
  | .set _, hclear => congrArg Value.set (mapHandlesAll_congr hagree hclear)
  | .map _, hclear => congrArg Value.map (mapHandlesEntries_congr hagree hclear)
  | .frozenMap _, hclear => congrArg Value.frozenMap (mapHandlesEntries_congr hagree hclear)
  | .record type _, hclear => congrArg (Value.record type) (mapHandlesSlots_congr hagree hclear)
  | .null, _ | .bool _, _ | .int _, _ | .float _, _ | .text _, _ | .bytes _, _ | .date _, _
  | .moment _, _ | .callable, _ => rfl

theorem mapHandlesAll_congr (hagree : ∀ h, (f h).holds p = false → g h = f h) :
    ∀ {items : List Value}, itemsHold p (mapHandlesAll f items) = false →
      mapHandlesAll g items = mapHandlesAll f items
  | [], _ => rfl
  | v :: rest, hclear => by
    obtain ⟨hhead, hrest⟩ := Bool.or_eq_false_iff.mp hclear
    rw [mapHandlesAll, mapHandlesAll, Value.mapHandles_congr hagree hhead,
      mapHandlesAll_congr hagree hrest]

theorem mapHandlesEntries_congr (hagree : ∀ h, (f h).holds p = false → g h = f h) :
    ∀ {entries : List (Value × Value)}, entriesHold p (mapHandlesEntries f entries) = false →
      mapHandlesEntries g entries = mapHandlesEntries f entries
  | [], _ => rfl
  | (k, v) :: rest, hclear => by
    obtain ⟨hentry, hrest⟩ := Bool.or_eq_false_iff.mp hclear
    obtain ⟨hkey, hvalue⟩ := Bool.or_eq_false_iff.mp hentry
    rw [mapHandlesEntries, mapHandlesEntries, Value.mapHandles_congr hagree hkey,
      Value.mapHandles_congr hagree hvalue, mapHandlesEntries_congr hagree hrest]

theorem mapHandlesSlots_congr (hagree : ∀ h, (f h).holds p = false → g h = f h) :
    ∀ {slots : List (Slot × Value)}, slotsHold p (mapHandlesSlots f slots) = false →
      mapHandlesSlots g slots = mapHandlesSlots f slots
  | [], _ => rfl
  | (slot, v) :: rest, hclear => by
    obtain ⟨hhead, hrest⟩ := Bool.or_eq_false_iff.mp hclear
    rw [mapHandlesSlots, mapHandlesSlots, Value.mapHandles_congr hagree hhead,
      mapHandlesSlots_congr hagree hrest]

end

end WrittenOut

namespace Store

variable {chosen : Handle → Bool} {s : Store μ} {v : Value} {labelled : Bool}

/-- Whether a handle changes its shape. -/
def changes (chosen : Handle → Bool) (s : Store μ) (h : Handle) : Bool :=
  (s.changing? chosen (.handle h)).isSome

theorem content_reshaped (depth : Nat) : ∀ h,
    (s.content labelled depth h).holds (s.changes chosen) = false →
      (s.reshaped chosen).content labelled depth h = s.content labelled depth h := by
  induction depth with
  | zero => exact fun _ _ => rfl
  | succ depth ih =>
    intro h hclear
    cases hchange : s.changing? chosen (.handle h) with
    | none =>
      unfold content at hclear ⊢
      rw [get?_reshaped_of_not_changing hchange]
      cases hcell : s.get? h with
      | none => rfl
      | some c =>
        rw [hcell] at hclear
        dsimp only at hclear ⊢
        obtain ⟨shape, fields, methods⟩ := c
        cases shape with
        | object | sealed => rfl
        | mapping =>
          cases h <;> cases labelled <;>
            first
            | rfl
            | exact congrArg Value.map (mapHandlesEntries_congr ih hclear)
        | frozen =>
          cases h <;> cases labelled <;>
            first
            | rfl
            | exact congrArg Value.frozenMap (mapHandlesEntries_congr ih hclear)
    | some c =>
      -- An object is not written out, so its handle is still there.
      obtain ⟨hcell, hshape, _⟩ := get?_of_changing hchange
      unfold content at hclear
      rw [hcell] at hclear
      simp [hshape, Value.holds, changes, hchange] at hclear

/-- A value is written out alike when no handle that changes its shape is left in it. -/
theorem snapshot_reshaped (hclear : (s.snapshot labelled v).holds (s.changes chosen) = false) :
    (s.reshaped chosen).snapshot labelled v = s.snapshot labelled v := by
  have hlength : (s.reshaped chosen).cells.length = s.cells.length := by simp [reshaped]
  unfold snapshot at hclear ⊢
  rw [hlength]
  exact Value.mapHandles_congr (content_reshaped _) hclear

end Store

end Playbook
