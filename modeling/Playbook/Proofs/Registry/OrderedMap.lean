import Playbook.Registry.Calls
import Mathlib.Data.List.Nodup
import Mathlib.Logic.Function.Basic

/-!
Insertion-ordered finite maps, as what registries should be: names in an order, without the empty
one and without repetition, and a value for each of them and for no other name. How a map is stored
is left open.
-/

namespace Playbook

structure OrderedMap (ε : Type) where
  names : List String
  value : String → Option ε
  proper : "" ∉ names
  distinct : names.Nodup
  mem_names_iff : ∀ name, name ∈ names ↔ (value name).isSome

namespace OrderedMap

variable {ε : Type} {m : OrderedMap ε} {name other : String} {v : ε}

def empty : OrderedMap ε where
  names := []
  value _ := none
  proper := List.not_mem_nil
  distinct := List.nodup_nil
  mem_names_iff name := by simp

/-- Puts a value under a name. A new name comes last, one that is there keeps its place. -/
def put (m : OrderedMap ε) (name : String) (hname : name ≠ "") (v : ε) : OrderedMap ε where
  names := if name ∈ m.names then m.names else m.names ++ [name]
  value := Function.update m.value name (some v)
  proper := by
    have hproper := m.proper
    split
    · exact hproper
    · simp [hproper, hname.symm]
  distinct := by
    have hdistinct := m.distinct
    split
    · exact hdistinct
    · rename_i hnew
      exact List.nodup_append.mpr ⟨hdistinct, List.nodup_singleton name, by
        rintro a ha b hb rfl
        exact hnew (List.mem_singleton.mp hb ▸ ha)⟩
  mem_names_iff other := by
    have hother := m.mem_names_iff other
    by_cases heq : other = name
    · subst heq
      split <;> simp_all
    · rw [Function.update_of_ne heq]
      split <;> simp [heq, hother]

/-- Takes a name out; the others keep their order. -/
def remove (m : OrderedMap ε) (name : String) : OrderedMap ε where
  names := m.names.erase name
  value := Function.update m.value name none
  proper h := m.proper (List.mem_of_mem_erase h)
  distinct := m.distinct.erase name
  mem_names_iff other := by
    rw [m.distinct.mem_erase_iff, m.mem_names_iff]
    by_cases heq : other = name
    · subst heq
      simp
    · simp [heq]

theorem names_put_of_not_mem {hname : name ≠ ""} (h : name ∉ m.names) :
    (m.put name hname v).names = m.names ++ [name] :=
  if_neg h

theorem not_mem_names_remove : name ∉ (m.remove name).names :=
  m.distinct.not_mem_erase

/-- A name that was taken out and is put in again has moved to the end. -/
theorem names_put_remove {hname : name ≠ ""} :
    ((m.remove name).put name hname v).names = m.names.erase name ++ [name] :=
  names_put_of_not_mem not_mem_names_remove

/-- What a map answers, and what becomes of it. -/
def perform (m : OrderedMap ε) : Registry.Call ε → Registry.Answer ε × OrderedMap ε
  | .register name candidate =>
    if hname : name = "" then (.refused .emptyName, m)
    else match candidate with
      | none => (.refused (.notCallable name), m)
      | some v => (.done, m.put name hname v)
  | .unregister name => (.truth (decide (name ∈ m.names)), m.remove name)
  | .get name => (.executor (m.value name), m)
  | .has name => (.truth (decide (name ∈ m.names)), m)
  | .size => (.count m.names.length, m)
  | .names => (.names m.names, m)
  | .clear => (.done, empty)

theorem perform_register_none (hname : name ≠ "") :
    m.perform (.register name none) = (.refused (.notCallable name), m) := by
  simp [perform, hname]

theorem perform_register_some (hname : name ≠ "") :
    m.perform (.register name (some v)) = (.done, m.put name hname v) := by
  simp [perform, hname]

end OrderedMap

/-- A map for each name that a registry is known under, and the default one. -/
abbrev OrderedMaps (ε : Type) := Option String → OrderedMap ε

namespace OrderedMaps

variable {ε : Type}

/-- A call changes the map that it is made on and no other. -/
def perform (maps : OrderedMaps ε) : Registries.Call ε → Registry.Answer ε × OrderedMaps ε
  | .on which call =>
    (((maps which).perform call).1, Function.update maps which ((maps which).perform call).2)
  | .reset label =>
    (.done, Function.update (Function.update maps none .empty) (some label) (maps none))

def performAll : OrderedMaps ε → List (Registries.Call ε) →
    List (Registry.Answer ε) × OrderedMaps ε
  | maps, [] => ([], maps)
  | maps, call :: calls =>
    let (answer, maps) := perform maps call
    let (answers, maps) := performAll maps calls
    (answer :: answers, maps)

end OrderedMaps

end Playbook
