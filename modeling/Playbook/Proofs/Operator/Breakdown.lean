import Mathlib.Algebra.GroupWithZero.Nat
import Mathlib.Data.List.Count
import Mathlib.Data.List.Induction
import Mathlib.Data.List.Nodup
import Playbook.Proofs.Engine.Frame
import Playbook.Report

/-!
What a report counts. The breakdown of a configuration names each command it uses once, in the
order in which they are first used, with the number of its uses. Nothing else is a breakdown of
the same commands, and both forms of the report go by it.
-/

namespace Playbook.Report

/-- The numbers of occurrences in a row of names, with the names in the order in which they first
occur. -/
structure Breakdown (names : List String) (counts : List (String × Nat)) : Prop where
  complete : ∀ n, n ∈ counts.map Prod.fst ↔ n ∈ names
  ordered : (counts.map Prod.fst).Pairwise fun m n => names.idxOf m < names.idxOf n
  exact : ∀ n k, (n, k) ∈ counts → k = names.count n
  total : (counts.map Prod.snd).sum = names.length

variable {names : List String} {counts others : List (String × Nat)} {m n : String} {k : Nat}

/-! ### Counting one more name -/

theorem count_nil : tally.count [] n = [(n, 1)] := rfl

theorem count_cons_self (rest : List (String × Nat)) :
    tally.count ((n, k) :: rest) n = (n, k + 1) :: rest := if_pos rfl

theorem count_cons_of_ne (h : m ≠ n) (rest : List (String × Nat)) :
    tally.count ((m, k) :: rest) n = (m, k) :: tally.count rest n := if_neg h

/-- A new name goes to the end, one that is there keeps its place. -/
theorem map_fst_count (counts : List (String × Nat)) (n : String) :
    (tally.count counts n).map Prod.fst =
      counts.map Prod.fst ++ (if n ∈ counts.map Prod.fst then [] else [n]) := by
  induction counts with
  | nil => rfl
  | cons entry rest ih =>
    obtain ⟨m, k⟩ := entry
    by_cases h : m = n
    · subst h
      simp [count_cons_self]
    · have hkey : n ∈ ((m, k) :: rest).map Prod.fst ↔ n ∈ rest.map Prod.fst := by
        simp [Ne.symm h]
      rw [count_cons_of_ne h, if_congr hkey rfl rfl, List.map_cons, ih]
      rfl

/-- Each name that is counted raises the sum by one. -/
theorem sum_count (counts : List (String × Nat)) (n : String) :
    ((tally.count counts n).map Prod.snd).sum = (counts.map Prod.snd).sum + 1 := by
  induction counts with
  | nil => rfl
  | cons entry rest ih =>
    obtain ⟨m, k⟩ := entry
    by_cases h : m = n
    · subst h
      simp only [count_cons_self, List.map_cons, List.sum_cons]
      omega
    · simp only [count_cons_of_ne h, List.map_cons, List.sum_cons, ih]
      omega

/-- The entry of another name is one from before; that of the name itself is one more than before,
or the first. -/
theorem of_mem_count (hkeys : (counts.map Prod.fst).Nodup) (h : (m, k) ∈ tally.count counts n) :
    (m ≠ n ∧ (m, k) ∈ counts) ∨
      m = n ∧ ((∃ j, (n, j) ∈ counts ∧ k = j + 1) ∨ n ∉ counts.map Prod.fst ∧ k = 1) := by
  induction counts with
  | nil =>
    rw [count_nil, List.mem_singleton, Prod.mk.injEq] at h
    exact .inr ⟨h.1, .inr ⟨List.not_mem_nil, h.2⟩⟩
  | cons entry rest ih =>
    obtain ⟨a, j⟩ := entry
    rw [List.map_cons, List.nodup_cons] at hkeys
    obtain ⟨hnew, hrest⟩ := hkeys
    by_cases ha : a = n
    · subst ha
      rw [count_cons_self, List.mem_cons, Prod.mk.injEq] at h
      rcases h with ⟨rfl, rfl⟩ | hmem
      · exact .inr ⟨rfl, .inl ⟨j, List.mem_cons_self, rfl⟩⟩
      · have hother : m ≠ a := by
          rintro rfl
          exact hnew (List.mem_map.mpr ⟨(m, k), hmem, rfl⟩)
        exact .inl ⟨hother, List.mem_cons_of_mem _ hmem⟩
    · rw [count_cons_of_ne ha, List.mem_cons, Prod.mk.injEq] at h
      rcases h with ⟨rfl, rfl⟩ | hmem
      · exact .inl ⟨ha, List.mem_cons_self⟩
      · rcases ih hrest hmem with ⟨hm, hmem⟩ | ⟨hm, ⟨i, hmem, hk⟩ | ⟨habsent, hk⟩⟩
        · exact .inl ⟨hm, List.mem_cons_of_mem _ hmem⟩
        · exact .inr ⟨hm, .inl ⟨i, List.mem_cons_of_mem _ hmem, hk⟩⟩
        · refine .inr ⟨hm, .inr ⟨?_, hk⟩⟩
          rw [List.map_cons, List.mem_cons]
          rintro (hn | hn)
          · exact ha hn.symm
          · exact habsent hn

/-! ### Breakdowns -/

namespace Breakdown

theorem nodup (h : Breakdown names counts) : (counts.map Prod.fst).Nodup :=
  h.ordered.imp fun hlt heq => by
    subst heq
    exact absurd hlt (Nat.lt_irrefl _)

theorem nil : Breakdown [] [] where
  complete _ := Iff.rfl
  ordered := .nil
  exact _ _ h := absurd h List.not_mem_nil
  total := rfl

/-- Each name that is counted makes a breakdown into one of the row with that name behind it. -/
theorem snoc (h : Breakdown names counts) (n : String) :
    Breakdown (names ++ [n]) (tally.count counts n) where
  complete m := by
    rw [map_fst_count, List.mem_append, List.mem_append, h.complete m, List.mem_singleton]
    by_cases hn : n ∈ names
    · rw [if_pos ((h.complete n).mpr hn)]
      constructor
      · exact fun hm => .inl (hm.resolve_right List.not_mem_nil)
      · rintro (hm | rfl)
        · exact .inl hm
        · exact .inl hn
    · rw [if_neg fun hkey => hn ((h.complete n).mp hkey), List.mem_singleton]
  ordered := by
    have hsame : ∀ m ∈ counts.map Prod.fst, (names ++ [n]).idxOf m = names.idxOf m :=
      fun m hm => List.idxOf_append_of_mem ((h.complete m).mp hm)
    have hbefore : (counts.map Prod.fst).Pairwise fun a b =>
        (names ++ [n]).idxOf a < (names ++ [n]).idxOf b :=
      h.ordered.imp_of_mem fun ha hb hlt => by rwa [hsame _ ha, hsame _ hb]
    rw [map_fst_count]
    split
    · rwa [List.append_nil]
    · next hkey =>
      refine List.pairwise_append.mpr ⟨hbefore, List.pairwise_singleton _ _, fun m hm b hb => ?_⟩
      have hn : n ∉ names := fun hn => hkey ((h.complete n).mpr hn)
      rw [List.mem_singleton.mp hb, hsame m hm, List.idxOf_append_of_notMem hn]
      have hlt : names.idxOf m < names.length := List.idxOf_lt_length_of_mem ((h.complete m).mp hm)
      omega
  exact m k hmem := by
    rw [List.count_append, List.count_singleton]
    rcases of_mem_count h.nodup hmem with ⟨hm, hmem⟩ | ⟨rfl, ⟨j, hj, rfl⟩ | ⟨habsent, rfl⟩⟩
    · rw [h.exact m k hmem]
      simp [Ne.symm hm]
    · rw [h.exact m j hj]
      simp
    · rw [List.count_eq_zero_of_not_mem fun hm => habsent ((h.complete m).mpr hm)]
      simp
  total := by
    rw [sum_count, h.total, List.length_append, List.length_singleton]

/-- A row has one breakdown only. -/
theorem unique (h : Breakdown names counts) (h' : Breakdown names others) : counts = others := by
  have hentries : ∀ {counts}, Breakdown names counts →
      counts = (counts.map Prod.fst).map fun n => (n, names.count n) := by
    intro counts h
    rw [List.map_map]
    refine (List.map_id counts).symm.trans (List.map_congr_left fun entry hmem => ?_)
    exact Prod.ext rfl (h.exact entry.1 entry.2 hmem)
  have hperm : (counts.map Prod.fst).Perm (others.map Prod.fst) :=
    (List.perm_ext_iff_of_nodup h.nodup h'.nodup).mpr fun n =>
      (h.complete n).trans (h'.complete n).symm
  have hkeys : counts.map Prod.fst = others.map Prod.fst :=
    hperm.eq_of_pairwise (fun _ _ _ _ hab hba => absurd hba (Nat.lt_asymm hab)) h.ordered h'.ordered
  rw [hentries h, hentries h', hkeys]

/-- A breakdown tells of every name how often it occurs. -/
theorem count_eq (h : Breakdown names counts) (n : String) :
    names.count n = (counts.lookup n).getD 0 := by
  cases hlookup : counts.lookup n with
  | none =>
    have habsent : n ∉ names := by
      rw [← h.complete n]
      rintro hkey
      obtain ⟨⟨m, k⟩, hmem, rfl⟩ := List.mem_map.mp hkey
      exact absurd (List.lookup_eq_none_iff.mp hlookup _ hmem) (by simp)
    rw [List.count_eq_zero_of_not_mem habsent]
    rfl
  | some k =>
    obtain ⟨before, after, hcounts, _⟩ := List.lookup_eq_some_iff.mp hlookup
    have hmem : (n, k) ∈ counts := by
      rw [hcounts]
      exact List.mem_append_right _ List.mem_cons_self
    exact (h.exact n k hmem).symm

end Breakdown

theorem tally_snoc (names : List String) (n : String) :
    tally (names ++ [n]) = tally.count (tally names) n :=
  List.foldl_append

theorem breakdown_tally (names : List String) : Breakdown names (tally names) := by
  induction names using List.reverseRecOn with
  | nil => exact .nil
  | append_singleton names n ih =>
    rw [tally_snoc]
    exact ih.snoc n

theorem eq_tally_iff : counts = tally names ↔ Breakdown names counts := by
  constructor
  · rintro rfl
    exact breakdown_tally names
  · exact fun h => h.unique (breakdown_tally names)

/-! ### The two reports -/

variable {r : VerifyResult} {c : Config}

/-- The report on a valid configuration breaks its commands down by name: one entry for each name,
in the order of their first uses, with the exact number of uses, all of which add up to the number
of commands it reports. The document reports the same number and the names one by one, each as
often as the breakdown has it. -/
theorem verify_reports_agree (hvalid : r.valid = true) (hconfig : r.config = some c) :
    ∃ (total : Nat) (types : List String) (counts : List (String × Nat)),
      total = c.commands.length ∧ types = c.commands.map Command.name ∧
      Breakdown types counts ∧ (counts.map Prod.fst).Nodup ∧ (counts.map Prod.snd).sum = total ∧
      (∀ n, types.count n = (counts.lookup n).getD 0) ∧
      verifyText r = String.intercalate "\n"
        (verifyHead c ++ ["  Commands: " ++ toString total, "\nCommand breakdown:"] ++
          counts.map breakdownLine) ∧
      verifyDocument r = .object
        [("valid", .bool true),
          ("config", .object
            [("name", .ofText? c.name.toOption), ("version", .text c.version),
              ("totalCommands", .ofNat total), ("commandTypes", .list (types.map .text))])] := by
  have hcounts : Breakdown (commandNames c) (tally (commandNames c)) := breakdown_tally _
  have htotal : ((tally (commandNames c)).map Prod.snd).sum = c.commands.length :=
    hcounts.total.trans (List.length_map _)
  refine ⟨c.commands.length, commandNames c, tally (commandNames c), rfl, rfl, hcounts,
    hcounts.nodup, htotal, ?_, ?_, ?_⟩
  · exact fun n => hcounts.count_eq n
  · simp only [verifyText, hvalid, hconfig, verifyLines]
  · simp only [verifyDocument, hvalid, hconfig]

/-- One command twice and another between. -/
def repetitive : Config := .ofNames ["open", "read", "open"]

theorem repetitive_reports_agree :
    verifyText ⟨true, some repetitive, none⟩ =
        "✓ Configuration is valid\n  File: (validated)\n  Version: 1\n  Commands: 3\n" ++
          "\nCommand breakdown:\n  - open: 2\n  - read: 1" ∧
      Breakdown ["open", "read", "open"] [("open", 2), ("read", 1)] := by
  obtain ⟨total, types, counts, rfl, rfl, hcounts, _, _, _, htext, _⟩ :=
    verify_reports_agree (r := ⟨true, some repetitive, none⟩) rfl rfl
  have hbreakdown : counts = [("open", 2), ("read", 1)] := eq_tally_iff.mpr hcounts
  subst hbreakdown
  exact ⟨htext.trans (by decide +kernel), hcounts⟩

end Playbook.Report
