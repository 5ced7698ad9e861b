import Mathlib.Data.List.Forall2
import Playbook.Json.Encoder
import Playbook.Proofs.Json.Circles

/-!
What is relied on of a writer of documents, whichever it is. Texts, numbers, rows and records are
written as what they are, what holds something that cannot be written is not written itself, and
plain data within the limits of the writer is written. Limits are the depth of nesting, the digits
of integers, and which texts can be encoded at all. The writers that are given here keep to this
within any limits, and for them a value is written exactly when it is bare of obstacles itself and
all of its parts are written.
-/

namespace Playbook

/-! ### What a document shows among objects -/

namespace Value

theorem sizeOf_lt_of_mem_parts {v w : Value} (hmem : w ∈ v.parts) : sizeOf w < sizeOf v := by
  have hsecond {α : Type} [SizeOf α] {rows : List (α × Value)} (h : w ∈ rows.map Prod.snd) :
      sizeOf w < sizeOf rows := by
    obtain ⟨row, hrow, rfl⟩ := List.mem_map.mp h
    obtain ⟨first, second⟩ := row
    have := List.sizeOf_lt_of_mem hrow
    simp only [Prod.mk.sizeOf_spec] at this ⊢
    omega
  cases v <;> simp only [parts, List.not_mem_nil] at hmem
  case list | tuple | set =>
    have := List.sizeOf_lt_of_mem hmem
    simp only [list.sizeOf_spec, tuple.sizeOf_spec, set.sizeOf_spec]
    omega
  case map | record =>
    have := hsecond hmem
    simp only [map.sizeOf_spec, record.sizeOf_spec]
    omega

/-- What a value takes over from its parts holds of every value. -/
theorem induction_on_parts {P : Value → Prop} (step : ∀ v : Value, (∀ w ∈ v.parts, P w) → P v)
    (v : Value) : P v :=
  step v fun w _ => induction_on_parts step w
termination_by sizeOf v
decreasing_by exact sizeOf_lt_of_mem_parts ‹_›

end Value

namespace Store

variable {μ : Type} {s : Store μ} {v w : Value} {h : Handle} {P : Value → Prop}

/-- The entries of a mapping object that a document writes out. -/
def written? (s : Store μ) (h : Handle) : Option Entries :=
  match s.get? h with
  | some c => if c.shape = .mapping then some c.fields else none
  | none => none

/-- A value as a document shows it on the outside: a mapping object is the mapping of its
entries. -/
def opened (s : Store μ) : Value → Value
  | .handle h =>
    match s.written? h with
    | some entries => .map entries
    | none => .handle h
  | v => v

/-- The values that a document shows inside of the one of a value. -/
def parts (s : Store μ) (v : Value) : List Value := (s.opened v).parts

/-- The keys that a document shows names for. -/
def keys (s : Store μ) (v : Value) : List Value :=
  match s.opened v with
  | .map entries => entries.map Prod.fst
  | _ => []

/-- Some value that a document shows, at any depth and in mapping objects, is of a kind. -/
inductive Displays (s : Store μ) (P : Value → Prop) : Value → Prop
  | here {v : Value} (holds : P v) : Displays s P v
  | part {v w : Value} (mem : w ∈ s.parts v) (inner : Displays s P w) : Displays s P v

/-- A value that only shows that it is there: something to call, or an object that is no mapping
which can be changed. -/
def IsOpaque (s : Store μ) : Value → Prop
  | .handle h => s.written? h = none
  | .frozenMap _ | .callable => True
  | _ => False

/-- A value nests at most that deep. -/
def Nests (s : Store μ) : Nat → Value → Prop
  | 0, v => s.parts v = []
  | depth + 1, v => ∀ w ∈ s.parts v, s.Nests depth w

theorem written?_eq_some_iff {entries : Entries} : s.written? h = some entries ↔
    ∃ c, s.get? h = some c ∧ c.shape = .mapping ∧ c.fields = entries := by
  unfold written?
  cases s.get? h with
  | none => simp
  | some c => simp [ite_eq_iff]

theorem opened_of_written {entries : Entries} (hwritten : s.written? h = some entries) :
    s.opened (.handle h) = .map entries := by
  simp [Store.opened, hwritten]

theorem opened_of_not_written (hnone : s.written? h = none) :
    s.opened (.handle h) = .handle h := by
  simp [Store.opened, hnone]

theorem Nests.mono {depth more : Nat} (hnests : s.Nests depth v) (hle : depth ≤ more) :
    s.Nests more v := by
  induction depth generalizing v more with
  | zero =>
    cases more with
    | zero => exact hnests
    | succ more => simp [Nests, show s.parts v = [] from hnests]
  | succ depth ih =>
    obtain ⟨more, rfl⟩ : ∃ rest, more = rest + 1 := ⟨more - 1, by omega⟩
    exact fun w hmem => ih (hnests w hmem) (by omega)

end Store

namespace Json

/-- What a writer is good for. -/
structure Limits where
  depth : Nat
  /-- The decimal digits of integers. -/
  digits : Nat
  /-- The texts that can be encoded. -/
  texts : String → Bool

/-- A row, a record or a mapping with good texts as keys. -/
def Limits.composes (limits : Limits) : Value → Bool
  | .list _ | .tuple _ | .record _ _ => true
  | .map entries => entries.all fun e => match e.1 with
    | .text t => limits.texts t
    | _ => false
  | _ => false

/-- Plain data within the limits of a writer, down to a depth: truth values, integers, texts, and
what is composed of them. -/
def Limits.allows {μ : Type} (limits : Limits) (s : Store μ) : Nat → Value → Bool
  | _, .null | _, .bool _ => true
  | _, .int n => n.natAbs < Nat.pow 10 limits.digits
  | _, .text t => limits.texts t
  | 0, _ => false
  | depth + 1, v => limits.composes (s.opened v) && (s.parts v).all (limits.allows s depth)

namespace Encoder

variable {μ : Type}

/-- A value is written. -/
def Writes (enc : Encoder μ) (s : Store μ) (v : Value) : Prop := ∃ j, enc.write s v = .ok j

/-- What is relied on of a writer. -/
structure Laws (enc : Encoder μ) (limits : Limits) : Prop where
  null (s : Store μ) : enc.write s .null = .ok .null
  bool (s : Store μ) (b : Bool) : enc.write s (.bool b) = .ok (.bool b)
  int {s : Store μ} {n : Int} {j : Json} : enc.write s (.int n) = .ok j → j = .int n
  text {s : Store μ} {t : String} {j : Json} : enc.write s (.text t) = .ok j → j = .text t
  list {s : Store μ} {items : List Value} {j : Json} : enc.write s (.list items) = .ok j →
    ∃ js, j = .list js ∧ List.Forall₂ (fun v j => enc.write s v = .ok j) items js
  record {s : Store μ} {type : String} {slots : List (Slot × Value)} {j : Json} :
    enc.write s (.record type slots) = .ok j → ∃ fields, j = .object fields ∧
      List.Forall₂ (fun slot field => field.1 = slot.1.key ∧ enc.write s slot.2 = .ok field.2)
        slots fields
  /-- What holds something that cannot be written is not written itself. -/
  part {s : Store μ} {v w : Value} : enc.Writes s v → w ∈ s.parts v → enc.Writes s w
  /-- Bytes are written as the text that they encode. -/
  bytes {s : Store μ} {bs : List UInt8} : Text.ofUtf8? bs = none → ¬ enc.Writes s (.bytes bs)
  keyBytes {s : Store μ} {v : Value} {bs : List UInt8} : .bytes bs ∈ s.keys v →
    Text.ofUtf8? bs = none → ¬ enc.Writes s v
  writesInt {s : Store μ} {n : Int} : n.natAbs < Nat.pow 10 limits.digits → enc.Writes s (.int n)
  writesText {s : Store μ} {t : String} : limits.texts t = true → enc.Writes s (.text t)
  writesComposed {s : Store μ} {v : Value} : limits.composes (s.opened v) = true →
    s.Nests limits.depth v → (∀ w ∈ s.parts v, enc.Writes s w) → enc.Writes s v

/-- No opaque value is written. -/
def RefusesOpaque (enc : Encoder μ) : Prop :=
  ∀ (s : Store μ) (v : Value), s.IsOpaque v → ¬ enc.Writes s v

end Encoder

end Json

namespace Json

variable {μ : Type} {enc : Encoder μ} {limits : Limits} {s : Store μ} {v : Value} {depth : Nat}

/-! ### What follows for every writer -/

theorem Encoder.Laws.not_writes_of_displays {P : Value → Prop} (laws : enc.Laws limits)
    (hP : ∀ w, P w → ¬ enc.Writes s w) (hdisplays : s.Displays P v) : ¬ enc.Writes s v := by
  induction hdisplays with
  | here holds => exact hP _ holds
  | part mem _ ih => exact fun hwrites => ih (laws.part hwrites mem)

theorem nests_of_no_parts (hparts : s.parts v = []) (depth : Nat) : s.Nests depth v := by
  cases depth with
  | zero => exact hparts
  | succ depth => simp [Store.Nests, hparts]

/-- What plain data is: without parts and good in itself, or composed of plain data. -/
theorem Limits.allows_cases (hallow : limits.allows s depth v = true) :
    v = .null ∨ (∃ b, v = .bool b) ∨ (∃ n, v = .int n ∧ n.natAbs < Nat.pow 10 limits.digits) ∨
      (∃ t, v = .text t ∧ limits.texts t = true) ∨
      ∃ less, depth = less + 1 ∧ limits.composes (s.opened v) = true ∧
        ∀ w ∈ s.parts v, limits.allows s less w = true := by
  unfold allows at hallow
  split at hallow
  case h_1 => exact .inl rfl
  case h_2 => exact .inr (.inl ⟨_, rfl⟩)
  case h_3 => exact .inr (.inr (.inl ⟨_, rfl, by simpa using hallow⟩))
  case h_4 => exact .inr (.inr (.inr (.inl ⟨_, rfl, hallow⟩)))
  case h_5 => cases hallow
  case h_6 =>
    rw [Bool.and_eq_true, List.all_eq_true] at hallow
    exact .inr (.inr (.inr (.inr ⟨_, rfl, hallow⟩)))

theorem Limits.nests_of_allows (hallow : limits.allows s depth v = true) : s.Nests depth v := by
  induction depth using Nat.strongRecOn generalizing v with
  | _ depth ih =>
    rcases allows_cases hallow with rfl | ⟨b, rfl⟩ | ⟨n, rfl, _⟩ | ⟨t, rfl, _⟩ |
      ⟨less, rfl, _, hparts⟩
    case inr.inr.inr.inr => exact fun w hmem => ih less less.lt_succ_self (hparts w hmem)
    all_goals exact nests_of_no_parts rfl depth

/-- Plain data within the limits of a writer is written. -/
theorem Encoder.Laws.writes_of_allows (laws : enc.Laws limits)
    (hallow : limits.allows s depth v = true) (hdepth : depth ≤ limits.depth) :
    enc.Writes s v := by
  induction depth using Nat.strongRecOn generalizing v with
  | _ depth ih =>
    rcases Limits.allows_cases hallow with rfl | ⟨b, rfl⟩ | ⟨n, rfl, hshort⟩ | ⟨t, rfl, hgood⟩ |
      ⟨less, rfl, hcomposes, hparts⟩
    · exact ⟨_, laws.null s⟩
    · exact ⟨_, laws.bool s b⟩
    · exact laws.writesInt hshort
    · exact laws.writesText hgood
    · have hnests : s.Nests limits.depth v := (Limits.nests_of_allows hallow).mono hdepth
      exact laws.writesComposed hcomposes hnests fun w hmem =>
        ih less less.lt_succ_self (hparts w hmem) (Nat.le_of_succ_le hdepth)

end Json

end Playbook
