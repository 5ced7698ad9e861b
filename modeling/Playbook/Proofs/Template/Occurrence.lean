import Playbook.Template
import Mathlib.Data.Nat.Find

/-!
Where placeholders stand in a text. The scanner goes on behind each placeholder that it finds; since
none starts inside another one, it still finds every place where a placeholder is written
(`Stride.occurs_iff`). So filling in a text fails exactly when some placeholder names a variable
that is not set, and it is the leftmost such one that is reported.
-/

namespace Playbook.Template

variable {cs front rest before name : List Char} {c : Char} {env : Environment} {var : String}

/-- The names that variables in placeholders have. -/
def IsName (name : List Char) : Prop :=
  ∃ first more, name = first :: more ∧ isNameStart first = true ∧ ∀ c ∈ more, isNameChar c = true

/-- A placeholder as it is written. -/
def token (name : List Char) : List Char := opening ++ (name ++ [closing])

theorem isNameChar_of_isNameStart (h : isNameStart c = true) : isNameChar c = true := by
  simp [isNameChar, h]

theorem IsName.isNameChar (h : IsName name) : ∀ c ∈ name, isNameChar c = true := by
  obtain ⟨first, more, rfl, hfirst, hmore⟩ := h
  intro c hc
  rcases List.mem_cons.mp hc with rfl | hin
  · exact isNameChar_of_isNameStart hfirst
  · exact hmore c hin

theorem after?_eq_some_iff {start : List Char} : after? start cs = some rest ↔ cs = start ++ rest := by
  induction start generalizing cs with
  | nil => simp [after?]
  | cons p ps ih =>
    cases cs with
    | nil => simp [after?]
    | cons c cs =>
      by_cases hc : p = c
      · simp [after?, hc, ih]
      · simp [after?, hc, Ne.symm hc]

/-- A text begins with a placeholder exactly when it begins with one as it is written. -/
theorem placeholder?_eq_some_iff :
    placeholder? cs = some (name, rest) ↔ IsName name ∧ cs = token name ++ rest := by
  constructor
  · intro h
    unfold placeholder? at h
    split at h
    · cases h
    · rename_i body hbody
      have hcs : cs = opening ++ body := after?_eq_some_iff.mp hbody
      simp only at h
      split at h
      · rename_i first more last others hname hrest
        split at h
        · rename_i hform
          obtain ⟨hfirst, rfl⟩ := hform
          obtain ⟨rfl, rfl⟩ : first :: more = name ∧ others = rest := by simpa [hname] using h
          have hchars : ∀ c ∈ body.takeWhile Template.isNameChar, Template.isNameChar c = true :=
            List.all_eq_true.mp List.all_takeWhile
          have hmore : ∀ c ∈ more, Template.isNameChar c = true := by
            intro c hc
            exact hchars c (hname ▸ List.mem_cons_of_mem first hc)
          have hbody : body = (first :: more) ++ closing :: others := by
            rw [← hname, ← hrest, List.takeWhile_append_dropWhile]
          refine ⟨⟨first, more, rfl, hfirst, hmore⟩, ?_⟩
          rw [hcs, hbody]
          simp [token]
        · cases h
      · cases h
  · rintro ⟨hname, rfl⟩
    have hbody : after? opening (token name ++ rest) = some (name ++ closing :: rest) :=
      after?_eq_some_iff.mpr (by simp [token])
    have hclosing : ¬ Template.isNameChar closing = true := by decide
    have htake : (name ++ closing :: rest).takeWhile Template.isNameChar = name := by
      rw [List.takeWhile_append_of_pos hname.isNameChar, List.takeWhile_cons_of_neg hclosing,
        List.append_nil]
    have hdrop : (name ++ closing :: rest).dropWhile Template.isNameChar = closing :: rest := by
      rw [List.dropWhile_append_of_pos hname.isNameChar, List.dropWhile_cons_of_neg hclosing]
    obtain ⟨first, more, rfl, hfirst, _⟩ := hname
    simp only [placeholder?, hbody, htake, hdrop]
    simp [hfirst]

/-- A placeholder starts with a sign that it holds nowhere else. -/
theorem token_eq_cons (hname : IsName name) : ∃ tail, token name = '$' :: tail ∧ '$' ∉ tail := by
  refine ⟨_, rfl, ?_⟩
  have hnot : '$' ∉ name := fun hmem => absurd (hname.isNameChar _ hmem) (by decide)
  simp [closing, hnot]

/-! ### Occurrences -/

/-- A placeholder for a variable stands in a text, behind a given part of it. -/
def Occurs (cs before : List Char) (var : String) : Prop :=
  IsName var.toList ∧ ∃ after, cs = before ++ (token var.toList ++ after)

/-- A text holds a placeholder for a variable. -/
def Mentions (cs : List Char) (var : String) : Prop := ∃ before, Occurs cs before var

theorem occurs_nil_iff :
    Occurs cs [] var ↔ ∃ rest, placeholder? cs = some (var.toList, rest) := by
  simp [Occurs, placeholder?_eq_some_iff]

/-- What the scanner steps over: a placeholder, or a character that starts none. -/
inductive Stride : List Char → List Char → Prop where
  | token {name rest : List Char} (isName : IsName name) : Stride (token name) rest
  | literal {c : Char} {rest : List Char} (none : placeholder? (c :: rest) = none) :
      Stride [c] rest

theorem Stride.ne_nil (h : Stride front rest) : front ≠ [] := by
  cases h with
  | token => simp [Template.token, opening]
  | literal => simp

/-- No placeholder starts inside of what the scanner steps over. -/
theorem Stride.occurs_iff (h : Stride front rest) (hbefore : before ≠ []) :
    Occurs (front ++ rest) before var ↔
      ∃ later, before = front ++ later ∧ Occurs rest later var := by
  constructor
  · rintro ⟨hname, after, heq⟩
    obtain ⟨first, more, rfl⟩ := List.exists_cons_of_ne_nil hbefore
    cases h with
    | literal =>
      obtain ⟨rfl, rfl⟩ : _ = first ∧ rest = _ := by simpa using heq
      exact ⟨more, rfl, hname, after, rfl⟩
    | token hfront =>
      rcases List.append_eq_append_iff.mp heq with ⟨later, hlater, hrest⟩ | ⟨inner, hinner, hrest⟩
      · exact ⟨later, hlater, hname, after, hrest⟩
      · -- The rest of this placeholder would hold the start of the other one.
        obtain ⟨tail, htail, hnot⟩ := token_eq_cons hfront
        obtain ⟨other, hother, _⟩ := token_eq_cons hname
        cases inner with
        | nil =>
          refine ⟨[], by simpa using hinner.symm, hname, after, ?_⟩
          simpa using hrest.symm
        | cons d others =>
          have hd : d = '$' := by
            rw [hother] at hrest
            exact (List.cons.inj hrest).1.symm
          have hin : '$' ∈ tail := by
            rw [htail] at hinner
            obtain ⟨_, rfl⟩ := List.cons.inj hinner
            simp [hd]
          exact absurd hin hnot
  · rintro ⟨later, rfl, hname, after, rfl⟩
    exact ⟨hname, after, by rw [List.append_assoc]⟩

/-! ### What is not set -/

/-- The leftmost placeholder of a text whose variable is not set. -/
def FirstUnset (env : Environment) (cs : List Char) (var : String) : Prop :=
  ∃ before, Occurs cs before var ∧ valueOf? env var = none ∧
    ∀ earlier other, Occurs cs earlier other → earlier.length < before.length →
      valueOf? env other ≠ none

theorem exists_firstUnset (hmentions : Mentions cs var) (hunset : valueOf? env var = none) :
    ∃ first, FirstUnset env cs first := by
  classical
  -- The leftmost one is the one with the least text before it.
  have hsome : ∃ n before other, Occurs cs before other ∧ valueOf? env other = none ∧
      before.length = n := by
    obtain ⟨before, hoccurs⟩ := hmentions
    exact ⟨_, before, var, hoccurs, hunset, rfl⟩
  obtain ⟨before, first, hoccurs, hfirst, hlength⟩ := Nat.find_spec hsome
  refine ⟨first, before, hoccurs, hfirst, fun earlier other hearlier hlt hother => ?_⟩
  rw [hlength] at hlt
  exact Nat.find_min hsome hlt ⟨earlier, other, hearlier, hother, rfl⟩

theorem FirstUnset.mentions (h : FirstUnset env cs var) :
    Mentions cs var ∧ valueOf? env var = none := by
  obtain ⟨before, hoccurs, hunset, _⟩ := h
  exact ⟨⟨before, hoccurs⟩, hunset⟩

/-- Stepping over something that is set changes nothing about which is the first. -/
theorem Stride.firstUnset_iff (h : Stride front rest)
    (hset : ∀ other, Occurs (front ++ rest) [] other → valueOf? env other ≠ none) :
    FirstUnset env (front ++ rest) var ↔ FirstUnset env rest var := by
  -- Places behind the step are those of the rest, moved on by its length.
  have hshift : ∀ later other, Occurs (front ++ rest) (front ++ later) other ↔
      Occurs rest later other := by
    intro later other
    rw [h.occurs_iff (by simp [h.ne_nil])]
    simp
  constructor
  · rintro ⟨before, hoccurs, hunset, hfirst⟩
    have hbefore : before ≠ [] := by
      rintro rfl
      exact hset var hoccurs hunset
    obtain ⟨later, rfl, hlater⟩ := (h.occurs_iff hbefore).mp hoccurs
    refine ⟨later, hlater, hunset, fun earlier other hearlier hlt => ?_⟩
    exact hfirst _ other ((hshift earlier other).mpr hearlier) (by simpa using hlt)
  · rintro ⟨later, hlater, hunset, hfirst⟩
    refine ⟨front ++ later, (hshift later var).mpr hlater, hunset, ?_⟩
    intro earlier other hearlier hlt
    by_cases hstart : earlier = []
    · subst hstart
      exact hset other hearlier
    · obtain ⟨sooner, rfl, hsooner⟩ := (h.occurs_iff hstart).mp hearlier
      exact hfirst sooner other hsooner (by simpa using hlt)

/-- Filling in a text fails at its leftmost placeholder whose variable is not set, and nowhere
else. -/
theorem fill_split_eq_error_iff :
    fill env (split cs) = .error ⟨var⟩ ↔ FirstUnset env cs var := by
  fun_induction split cs with
  | case1 cs name rest hplaceholder ih =>
    obtain ⟨hname, rfl⟩ := placeholder?_eq_some_iff.mp hplaceholder
    have hhead : ∀ other, Occurs (token name ++ rest) [] other ↔ other = String.ofList name := by
      intro other
      rw [occurs_nil_iff, hplaceholder]
      simp [String.ext_iff, eq_comm]
    cases hvalue : valueOf? env (String.ofList name) with
    | none =>
      constructor
      · intro hfill
        obtain rfl : String.ofList name = var := by simpa [fill, hvalue] using hfill
        exact ⟨[], (hhead _).mpr rfl, hvalue, by simp⟩
      · rintro ⟨before, hoccurs, _, hfirst⟩
        have hbefore : before = [] := by
          by_contra hne
          exact hfirst [] _ ((hhead _).mpr rfl) (List.length_pos_iff.mpr hne) hvalue
        subst hbefore
        rw [(hhead var).mp hoccurs]
        simp [fill, hvalue]
    | some value =>
      have hset : ∀ other, Occurs (token name ++ rest) [] other → valueOf? env other ≠ none := by
        intro other hother
        simp [(hhead other).mp hother, hvalue]
      rw [(Stride.token hname).firstUnset_iff hset, ← ih]
      cases hrest : fill env (split rest) <;> simp [fill, hvalue, hrest, Except.map]
  | case2 hplaceholder =>
    have hnone : ¬ FirstUnset env [] var := by
      rintro ⟨before, ⟨_, after, heq⟩, _⟩
      simp [token, opening] at heq
    simp [fill, hnone]
  | case3 c rest hplaceholder ih =>
    have hset : ∀ other, Occurs ([c] ++ rest) [] other → valueOf? env other ≠ none := by
      intro other hother
      obtain ⟨_, hsome⟩ := occurs_nil_iff.mp hother
      rw [List.singleton_append, hplaceholder] at hsome
      cases hsome
    have hstep : FirstUnset env (c :: rest) var ↔ FirstUnset env rest var :=
      (Stride.literal hplaceholder).firstUnset_iff hset
    rw [hstep, ← ih]
    cases hrest : fill env (split rest) <;> simp [fill, hrest, Except.map]

/-- Filling in a text works when every variable that it mentions is set. -/
theorem exists_fill_split_iff :
    (∃ filled, fill env (split cs) = .ok filled) ↔
      ∀ var, Mentions cs var → valueOf? env var ≠ none := by
  constructor
  · rintro ⟨filled, hfill⟩ var hmentions hunset
    obtain ⟨first, hfirst⟩ := exists_firstUnset hmentions hunset
    rw [fill_split_eq_error_iff.mpr hfirst] at hfill
    cases hfill
  · intro hset
    cases hfill : fill env (split cs) with
    | ok filled => exact ⟨filled, rfl⟩
    | error e =>
      obtain ⟨hmentions, hunset⟩ := (fill_split_eq_error_iff.mp hfill).mentions
      exact absurd hunset (hset _ hmentions)

theorem expand_eq_error_iff {s : String} :
    expand env s = .error ⟨var⟩ ↔ FirstUnset env s.toList var := by
  rw [← fill_split_eq_error_iff, expand]
  cases fill env (split s.toList) <;> simp [Except.map]

end Playbook.Template
