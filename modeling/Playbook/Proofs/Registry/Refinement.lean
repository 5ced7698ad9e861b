import Playbook.Proofs.Registry.OrderedMap

/-!
Registries behave as ordered maps. A registry is a list of pairs, and nothing in its type keeps a
name from standing there twice; that none does is kept by each call, because a registry that stands
for a map stands for a map afterwards. Over a whole history every answer is that of the maps.
-/

namespace Playbook

variable {ε : Type} {r : Registry ε} {m : OrderedMap ε} {name other : String} {v : ε}

/-! ### One registry -/

namespace Registry

theorem contains_iff_mem : r.contains name = true ↔ name ∈ r.names :=
  List.contains_iff_mem

theorem size_eq_length (r : Registry ε) : r.size = r.names.length := by
  rw [size, Registry.names, List.length_map]

theorem lookup_cons_eq (n : String) (v : ε) (rest : List (String × ε)) (other : String) :
    ((n, v) :: rest).lookup other = if other = n then some v else rest.lookup other := by
  rw [List.lookup_cons]
  by_cases h : other = n
  · rw [if_pos h, beq_iff_eq.mpr h]
  · rw [if_neg h, beq_eq_false_iff_ne.mpr h]

theorem names_putEntry (name : String) (v : ε) (entries : List (String × ε)) :
    (putEntry name v entries).map Prod.fst =
      if name ∈ entries.map Prod.fst then entries.map Prod.fst
      else entries.map Prod.fst ++ [name] := by
  induction entries with
  | nil => rfl
  | cons e rest ih =>
    obtain ⟨n, old⟩ := e
    by_cases hn : n = name
    · simp [putEntry, hn]
    · have hne : name ≠ n := Ne.symm hn
      rw [putEntry, if_neg hn, List.map_cons, ih]
      by_cases hmem : name ∈ rest.map Prod.fst
      · simp [hmem]
      · simp [hmem, hne]

theorem lookup_putEntry (name other : String) (v : ε) (entries : List (String × ε)) :
    (putEntry name v entries).lookup other =
      if other = name then some v else entries.lookup other := by
  induction entries with
  | nil => rw [putEntry, lookup_cons_eq]
  | cons e rest ih =>
    obtain ⟨n, old⟩ := e
    by_cases hn : n = name
    · subst hn
      rw [putEntry, if_pos rfl, lookup_cons_eq, lookup_cons_eq]
      by_cases h : other = n <;> simp [h]
    · rw [putEntry, if_neg hn, lookup_cons_eq, lookup_cons_eq, ih]
      by_cases h : other = n
      · subst h
        rw [if_pos rfl, if_neg hn, if_pos rfl]
      · rw [if_neg h, if_neg h]

theorem lookup_filter (name other : String) (entries : List (String × ε)) :
    (entries.filter fun e => e.1 ≠ name).lookup other =
      if other = name then none else entries.lookup other := by
  induction entries with
  | nil => simp
  | cons e rest ih =>
    obtain ⟨n, old⟩ := e
    by_cases hn : n = name
    · subst hn
      rw [List.filter_cons_of_neg (by simp), ih, lookup_cons_eq]
      by_cases h : other = n <;> simp [h]
    · rw [List.filter_cons_of_pos (by simpa using hn), lookup_cons_eq, lookup_cons_eq, ih]
      by_cases h : other = n
      · subst h
        rw [if_pos rfl, if_neg hn, if_pos rfl]
      · rw [if_neg h, if_neg h]

theorem perform_register_none (hname : name ≠ "") :
    r.perform (.register name none) = (.refused (.notCallable name), r) := by
  simp [perform, register, hname]

theorem perform_register_refused {candidate : Option ε} (h : name = "" ∨ candidate = none) :
    ∃ e, r.perform (.register name candidate) = (.refused e, r) := by
  by_cases hname : name = ""
  · subst hname
    exact ⟨.emptyName, rfl⟩
  · obtain rfl : candidate = none := h.resolve_left hname
    exact ⟨.notCallable name, perform_register_none hname⟩

theorem perform_register_some (hname : name ≠ "") :
    r.perform (.register name (some v)) = (.done, r.insert name v) := by
  simp [perform, register, hname]

/-- A registry stands for a map: the same names in the same order, with the same values. -/
structure Represents (r : Registry ε) (m : OrderedMap ε) : Prop where
  names : r.names = m.names
  value : ∀ name, r.get? name = m.value name

namespace Represents

theorem empty : Represents (ε := ε) Registry.empty .empty :=
  ⟨rfl, fun _ => rfl⟩

theorem insert (h : r.Represents m) (hname : name ≠ "") (v : ε) :
    (r.insert name v).Represents (m.put name hname v) where
  names := by
    have hnames := names_putEntry name v r.entries
    rw [Registry.names, Registry.insert, hnames]
    change (if name ∈ r.names then r.names else r.names ++ [name]) = _
    rw [h.names]
    rfl
  value other := by
    rw [get?, Registry.insert, lookup_putEntry]
    change (if other = name then some v else r.get? other) =
      Function.update m.value name (some v) other
    rw [h.value, Function.update_apply]

theorem remove (h : r.Represents m) (name : String) :
    (r.unregister name).2.Represents (m.remove name) where
  names := by
    have hnames : (r.unregister name).2.names = r.names.filter (· ≠ name) := by
      rw [Registry.names, Registry.names, unregister, List.filter_map]
      rfl
    change _ = m.names.erase name
    rw [hnames, h.names, m.distinct.erase_eq_filter]
    refine List.filter_congr fun other _ => ?_
    by_cases heq : other = name <;> simp [heq]
  value other := by
    rw [unregister, get?, lookup_filter]
    change (if other = name then none else r.get? other) = Function.update m.value name none other
    rw [h.value, Function.update_apply]

theorem contains_eq (h : r.Represents m) (name : String) :
    r.contains name = decide (name ∈ m.names) := by
  rw [Bool.eq_iff_iff, contains_iff_mem, h.names, decide_eq_true_iff]

/-- One call: the same answer, and a registry that stands for what has become of the map. -/
theorem perform (h : r.Represents m) (call : Call ε) :
    (r.perform call).1 = (m.perform call).1 ∧ (r.perform call).2.Represents (m.perform call).2 := by
  cases call with
  | register name candidate =>
    by_cases hname : name = ""
    · subst hname
      exact ⟨rfl, h⟩
    · cases candidate with
      | none =>
        rw [perform_register_none hname, OrderedMap.perform_register_none hname]
        exact ⟨rfl, h⟩
      | some v =>
        rw [perform_register_some hname, OrderedMap.perform_register_some hname]
        exact ⟨rfl, h.insert hname v⟩
  | unregister name => exact ⟨congrArg Answer.truth (h.contains_eq name), h.remove name⟩
  | get name => exact ⟨congrArg Answer.executor (h.value name), h⟩
  | has name => exact ⟨congrArg Answer.truth (h.contains_eq name), h⟩
  | size =>
    have hsize : r.size = m.names.length := by rw [size_eq_length, h.names]
    exact ⟨congrArg Answer.count hsize, h⟩
  | names => exact ⟨congrArg Answer.names h.names, h⟩
  | clear => exact ⟨rfl, .empty⟩

end Represents

/-- What is listed, what is found, what is counted and what can be taken out are the same names. -/
structure Consistent (r : Registry ε) : Prop where
  proper : "" ∉ r.names
  distinct : r.names.Nodup
  size_eq : r.size = r.names.length
  contains_iff : ∀ name, r.contains name = true ↔ name ∈ r.names
  found_iff : ∀ name, r.get? name ≠ none ↔ name ∈ r.names
  unregisters_iff : ∀ name, (r.unregister name).1 = true ↔ name ∈ r.names

theorem Represents.consistent (h : r.Represents m) : r.Consistent where
  proper := h.names ▸ m.proper
  distinct := h.names ▸ m.distinct
  size_eq := r.size_eq_length
  contains_iff _ := contains_iff_mem
  found_iff name := by
    rw [h.value, h.names, m.mem_names_iff, Option.ne_none_iff_isSome]
  unregisters_iff _ := contains_iff_mem

/-- How a registration changes the order of names and what is found under them. -/
theorem Represents.register (h : r.Represents m) (hname : name ≠ "") (v : ε) :
    let after := (r.perform (.register name (some v))).2
    after.names = (if name ∈ r.names then r.names else r.names ++ [name]) ∧
      after.get? name = some v ∧ ∀ other, other ≠ name → after.get? other = r.get? other := by
  intro after
  have hafter : after.Represents (m.put name hname v) := by
    change Registry.Represents (r.perform _).2 _
    rw [perform_register_some hname]
    exact h.insert hname v
  refine ⟨?_, ?_, fun other hother => ?_⟩
  · rw [hafter.names, h.names]
    rfl
  · rw [hafter.value]
    exact Function.update_self name (some v) m.value
  · rw [hafter.value, h.value]
    exact Function.update_of_ne hother (some v) m.value

/-- A name that was taken out and is registered again has moved to the end. -/
theorem Represents.register_again (h : r.Represents m) (hname : name ≠ "") (v : ε) :
    ((r.perform (.unregister name)).2.perform (.register name (some v))).2.names =
      r.names.erase name ++ [name] := by
  have hafter := ((h.remove name).insert hname v).names
  rw [perform_register_some hname]
  exact hafter.trans (OrderedMap.names_put_remove.trans (by rw [h.names]))

end Registry

/-! ### The registries of a process -/

namespace Registries

variable {rs : Registries ε} {maps : OrderedMaps ε} {which which' : Option String}

/-- The others are kept as the entries of a registry are. -/
theorem putOther_eq (name : String) (r : Registry ε) (others : List (String × Registry ε)) :
    putOther name r others = Registry.putEntry name r others := by
  induction others with
  | nil => rfl
  | cons e rest ih => rw [putOther, Registry.putEntry, ih]

theorem get_set (rs : Registries ε) (which which' : Option String) (r : Registry ε) :
    (rs.set which r).get which' = if which' = which then r else rs.get which' := by
  cases which with
  | none => cases which' <;> simp [set, get]
  | some name =>
    cases which' with
    | none => simp [set, get]
    | some other =>
      rw [set, get, putOther_eq, Registry.lookup_putEntry]
      by_cases h : other = name <;> simp [h, get]

theorem get_perform_reset (rs : Registries ε) (label : String) (which : Option String) :
    (rs.perform (.reset label)).2.get which =
      if which = some label then rs.get none else if which = none then .empty else rs.get which := by
  change Registries.get (Registries.set { rs with default := .empty } (some label) rs.default)
    which = _
  rw [get_set]
  cases which <;> rfl

/-- The registries of a process stand for one map each. -/
def Represents (rs : Registries ε) (maps : OrderedMaps ε) : Prop :=
  ∀ which, (rs.get which).Represents (maps which)

namespace Represents

theorem perform (h : rs.Represents maps) (call : Call ε) :
    (rs.perform call).1 = (OrderedMaps.perform maps call).1 ∧
      (rs.perform call).2.Represents (OrderedMaps.perform maps call).2 := by
  cases call with
  | on which call =>
    obtain ⟨hanswer, hafter⟩ := (h which).perform call
    refine ⟨hanswer, fun which' => ?_⟩
    change (Registries.get (Registries.set rs which _) which').Represents
      (Function.update maps which _ which')
    rw [get_set, Function.update_apply]
    split
    · exact hafter
    · exact h which'
  | reset label =>
    refine ⟨rfl, fun which' => ?_⟩
    rw [get_perform_reset]
    change Registry.Represents _
      (Function.update (Function.update maps none .empty) (some label) (maps none) which')
    rw [Function.update_apply, Function.update_apply]
    split
    · exact h none
    · split
      · exact .empty
      · exact h which'

/-- A whole history, call by call. -/
theorem performAll (h : rs.Represents maps) (calls : List (Call ε)) :
    (rs.performAll calls).1 = (OrderedMaps.performAll maps calls).1 ∧
      (rs.performAll calls).2.Represents (OrderedMaps.performAll maps calls).2 := by
  induction calls generalizing rs maps with
  | nil => exact ⟨rfl, h⟩
  | cons call calls ih =>
    obtain ⟨hanswer, hafter⟩ := h.perform call
    obtain ⟨hanswers, hended⟩ := ih hafter
    exact ⟨congrArg₂ List.cons hanswer hanswers, hended⟩

end Represents

/-- No name is registered before anything was called. -/
theorem represents_fresh : Represents (ε := ε) {} fun _ => .empty := by
  intro which
  cases which <;> exact .empty

theorem get_perform_on (rs : Registries ε) (which : Option String) (call : Registry.Call ε)
    (other : Option String) :
    (rs.perform (.on which call)).2.get other =
      if other = which then ((rs.get which).perform call).2 else rs.get other :=
  get_set rs which other _

/-- Two calls on one registry. -/
theorem get_performAll_pair (rs : Registries ε) (which : Option String)
    (first second : Registry.Call ε) :
    (rs.performAll [.on which first, .on which second]).2.get which =
      (((rs.get which).perform first).2.perform second).2 := by
  have htwice : (rs.performAll [.on which first, .on which second]).2 =
      ((rs.perform (.on which first)).2.perform (.on which second)).2 := rfl
  rw [htwice, get_perform_on, if_pos rfl, get_perform_on, if_pos rfl]

theorem refused_changes_nothing {candidate : Option ε} (h : name = "" ∨ candidate = none) :
    let refused := rs.perform (.on which (.register name candidate))
    (∃ e, refused.1 = .refused e) ∧ ∀ other, refused.2.get other = rs.get other := by
  intro refused
  obtain ⟨e, hrefused⟩ : ∃ e, (rs.get which).perform (.register name candidate) =
      (.refused e, rs.get which) := Registry.perform_register_refused h
  refine ⟨⟨e, congrArg Prod.fst hrefused⟩, fun other => ?_⟩
  change (rs.perform _).2.get other = _
  rw [get_perform_on, hrefused]
  split
  · rename_i heq
    rw [heq]
  · rfl

/-- Registries are ordered maps, each one of its own. Whatever history of calls a process starts
with, the answers are those of the maps, and in the end every registry stands for its map: the names
that it lists are distinct and not empty, and they are the names that it has, finds, counts and can
take out. Whatever is called next, a new name comes last, a name that is there keeps its place and
takes the new executor, and a name that was taken out and is registered again moves to the end; a
refused registration changes nothing, and no call changes another registry. When the default
registry is replaced, the new one is empty and the old one is kept as it was. -/
theorem registries_are_ordered_maps (calls : List (Call ε)) :
    let ended := performAll (ε := ε) {} calls
    let maps := OrderedMaps.performAll (fun _ => OrderedMap.empty (ε := ε)) calls
    let rs := ended.2
    ended.1 = maps.1 ∧ rs.Represents maps.2 ∧
      (∀ which, (rs.get which).Consistent) ∧
      (∀ which name v, name ≠ "" →
        let after := (rs.perform (.on which (.register name (some v)))).2.get which
        after.names = (if name ∈ (rs.get which).names then (rs.get which).names
          else (rs.get which).names ++ [name]) ∧
        after.get? name = some v ∧
        (∀ other, other ≠ name → after.get? other = (rs.get which).get? other) ∧
        ((rs.performAll [.on which (.unregister name), .on which (.register name (some v))]).2.get
          which).names = (rs.get which).names.erase name ++ [name]) ∧
      (∀ which name candidate, name = "" ∨ candidate = none →
        let refused := rs.perform (.on which (.register name candidate))
        (∃ e, refused.1 = .refused e) ∧ ∀ other, refused.2.get other = rs.get other) ∧
      (∀ which call other, other ≠ which →
        (rs.perform (.on which call)).2.get other = rs.get other) ∧
      ∀ label, let reset := (rs.perform (.reset label)).2
        reset.get none = .empty ∧ reset.get (some label) = rs.get none ∧
          ∀ other, other ≠ label → reset.get (some other) = rs.get (some other) := by
  intro ended maps rs
  obtain ⟨hanswers, hended⟩ := represents_fresh.performAll calls
  refine ⟨hanswers, hended, fun which => (hended which).consistent, ?_, ?_, ?_, ?_⟩
  · intro which name v hname after
    have hafter : after = ((rs.get which).perform (.register name (some v))).2 := by
      change (rs.perform _).2.get which = _
      rw [get_perform_on, if_pos rfl]
    obtain ⟨hnames, hself, hothers⟩ := (hended which).register hname v
    rw [hafter, get_performAll_pair]
    exact ⟨hnames, hself, hothers, (hended which).register_again hname v⟩
  · intro which name candidate hbad
    exact refused_changes_nothing hbad
  · intro which call other hother
    rw [get_perform_on, if_neg hother]
  · intro label reset
    refine ⟨?_, ?_, fun other hother => ?_⟩
    · exact (get_perform_reset rs label none).trans (by simp)
    · exact (get_perform_reset rs label (some label)).trans (by simp)
    · exact (get_perform_reset rs label (some other)).trans (by simp [hother])

/-- A name that is registered twice, one that is empty, and a registry beside the default one. -/
theorem default_registry_is_replaced :
    let calls : List (Call Nat) :=
      [.on none (.register "a" (some 1)), .on (some "own") (.register "b" (some 2)),
        .on none (.register "b" (some 3)), .on none (.register "a" (some 4)),
        .on none (.register "" (some 5)), .on none .names, .on none (.get "a")]
    let ended := performAll {} calls
    let rs := ended.2
    let again := (rs.performAll [.on none (.unregister "a"), .on none (.register "a" (some 6))]).2
    let refused := rs.perform (.on none (.register "b" none))
    let reset := (rs.perform (.reset "old")).2
    ended.1 = [.done, .done, .done, .done, .refused .emptyName, .names ["a", "b"],
        .executor (some 4)] ∧
      (again.get none).names = ["b", "a"] ∧
      refused.1 = .refused (.notCallable "b") ∧ refused.2.get none = rs.get none ∧
      (rs.perform (.on none .clear)).2.get (some "own") = rs.get (some "own") ∧
      reset.get none = .empty ∧ (reset.get (some "old")).names = ["a", "b"] ∧
      (reset.get (some "own")).names = ["b"] := by
  intro calls ended rs again refused reset
  obtain ⟨hanswers, _, _, hregister, hrefuse, hframe, hreset⟩ := registries_are_ordered_maps calls
  obtain ⟨_, _, _, hagain⟩ := hregister none "a" 6 (by decide)
  obtain ⟨_, hkept⟩ := hrefuse none "b" none (.inr rfl)
  obtain ⟨hnew, hold, hother⟩ := hreset "old"
  refine ⟨hanswers.trans rfl, hagain.trans rfl, rfl, hkept none,
    hframe none .clear (some "own") (by decide), hnew, ?_, ?_⟩
  · exact (congrArg Registry.names hold).trans rfl
  · exact (congrArg Registry.names (hother "own" (by decide))).trans rfl

end Registries

end Playbook
