import Playbook.Proofs.Template.Occurrence

/-!
Expansion as a substitution in one pass. A text can be taken apart in one way only such that every
placeholder in it is a piece of its own (`splits_unique`), and the scanner finds that way. Each
piece is put in place by itself, so nothing that a variable holds is looked at again, and two texts
can be expanded one by one when no placeholder reaches over the place where they meet.
-/

namespace Playbook.Template

variable {cs xs ys rest before : List Char} {p : Piece} {ps qs : List Piece}
  {env env' : Environment} {var : String}

/-- A piece as it is written. -/
def Piece.written : Piece → List Char
  | .literal c => [c]
  | .reference name => token name.toList

/-- The text that some pieces make up. -/
def written (ps : List Piece) : List Char := ps.flatMap Piece.written

@[simp] theorem written_nil : written [] = [] := rfl

@[simp] theorem written_cons (p : Piece) (ps : List Piece) :
    written (p :: ps) = p.written ++ written ps := rfl

@[simp] theorem written_append (ps qs : List Piece) :
    written (ps ++ qs) = written ps ++ written qs :=
  List.flatMap_append

theorem Piece.written_ne_nil (p : Piece) : p.written ≠ [] := by
  cases p <;> simp [Piece.written, token, opening]

theorem written_eq_nil_iff : written ps = [] ↔ ps = [] := by
  cases ps with
  | nil => simp
  | cons p ps => simp [p.written_ne_nil]

/-- Pieces take a text apart when they make it up and every placeholder in it is one of them. -/
structure Splits (cs : List Char) (ps : List Piece) : Prop where
  written_eq : written ps = cs
  isName : ∀ var, .reference var ∈ ps → IsName var.toList
  exists_piece : ∀ before var, Occurs cs before var →
    ∃ front back, ps = front ++ .reference var :: back ∧ written front = before

/-! ### One way to take a text apart -/

/-- The placeholders of a text are its references, each where the pieces before it put it. -/
theorem Splits.occurs_iff (h : Splits cs ps) :
    Occurs cs before var ↔
      ∃ front back, ps = front ++ .reference var :: back ∧ written front = before := by
  refine ⟨h.exists_piece before var, ?_⟩
  rintro ⟨front, back, rfl, rfl⟩
  exact ⟨h.isName var (by simp), written back, by simp [← h.written_eq, Piece.written]⟩

theorem Splits.mentions_iff (h : Splits cs ps) : Mentions cs var ↔ .reference var ∈ ps := by
  constructor
  · rintro ⟨before, hoccurs⟩
    obtain ⟨front, back, rfl, _⟩ := h.occurs_iff.mp hoccurs
    simp
  · intro hmem
    obtain ⟨front, back, hps⟩ := List.append_of_mem hmem
    exact ⟨_, h.occurs_iff.mpr ⟨front, back, hps, rfl⟩⟩

/-- A text begins with a placeholder exactly when its first piece is one. -/
theorem Splits.occurs_nil_iff (h : Splits cs (p :: ps)) :
    Occurs cs [] var ↔ p = .reference var := by
  rw [h.occurs_iff]
  constructor
  · rintro ⟨front, back, hps, hfront⟩
    obtain rfl := written_eq_nil_iff.mp hfront
    exact (List.cons.inj hps).1
  · rintro rfl
    exact ⟨[], ps, rfl, rfl⟩

/-- What is left of a text behind its first piece is taken apart by the other pieces. -/
theorem Splits.tail (h : Splits (p.written ++ rest) (p :: ps)) : Splits rest ps where
  written_eq := by simpa using h.written_eq
  isName var hmem := h.isName var (List.mem_cons_of_mem p hmem)
  exists_piece later var := by
    rintro ⟨hname, after, hrest⟩
    have hoccurs : Occurs (p.written ++ rest) (p.written ++ later) var :=
      ⟨hname, after, by rw [hrest, List.append_assoc]⟩
    obtain ⟨front, back, hps, hfront⟩ := h.exists_piece _ _ hoccurs
    cases front with
    | nil => simp [p.written_ne_nil] at hfront
    | cons first front =>
      obtain ⟨rfl, rfl⟩ := List.cons.inj hps
      exact ⟨front, back, rfl, by simpa using hfront⟩

theorem splits_unique (hp : Splits cs ps) (hq : Splits cs qs) : ps = qs := by
  induction ps generalizing cs qs with
  | nil =>
    have hcs : written qs = written [] := hq.written_eq.trans hp.written_eq.symm
    exact (written_eq_nil_iff.mp hcs).symm
  | cons p ps ih =>
    cases qs with
    | nil =>
      have hcs : written (p :: ps) = written [] := hp.written_eq.trans hq.written_eq.symm
      exact written_eq_nil_iff.mp hcs
    | cons q qs =>
      -- Whether the first piece is a placeholder, and which one, is told by the text.
      have hstart : ∀ var, p = .reference var ↔ q = .reference var := fun var =>
        hp.occurs_nil_iff.symm.trans hq.occurs_nil_iff
      have hwhole : p.written ++ written ps = q.written ++ written qs :=
        hp.written_eq.trans hq.written_eq.symm
      have hfirst : p = q := by
        cases p with
        | reference var => exact ((hstart var).mp rfl).symm
        | literal c =>
          cases q with
          | reference var => cases (hstart var).mpr rfl
          | literal d =>
            obtain ⟨rfl, _⟩ := List.cons.inj hwhole
            rfl
      subst hfirst
      obtain rfl : p.written ++ written ps = cs := hp.written_eq
      rw [ih hp.tail hq.tail]

/-- A step of the scanner puts a piece in front. -/
theorem Splits.cons (h : Splits rest ps) (hstride : Stride p.written rest)
    (hstart : ∀ var, Occurs (p.written ++ rest) [] var ↔ p = .reference var) :
    Splits (p.written ++ rest) (p :: ps) where
  written_eq := by rw [written_cons, h.written_eq]
  isName var hmem := by
    rcases List.mem_cons.mp hmem with hp | hmem
    · exact ((hstart var).mpr hp.symm).1
    · exact h.isName var hmem
  exists_piece before var hoccurs := by
    by_cases hbefore : before = []
    · subst hbefore
      obtain rfl := (hstart var).mp hoccurs
      exact ⟨[], ps, rfl, rfl⟩
    · obtain ⟨later, rfl, hlater⟩ := (hstride.occurs_iff hbefore).mp hoccurs
      obtain ⟨front, back, rfl, rfl⟩ := h.exists_piece later var hlater
      exact ⟨p :: front, back, rfl, rfl⟩

theorem splits_split (cs : List Char) : Splits cs (split cs) := by
  fun_induction split cs with
  | case1 cs name rest hplaceholder ih =>
    obtain ⟨hname, rfl⟩ := placeholder?_eq_some_iff.mp hplaceholder
    have hwritten : (Piece.reference (String.ofList name)).written = token name := by
      simp [Piece.written]
    rw [← hwritten] at hplaceholder ⊢
    refine ih.cons (hwritten ▸ .token hname) fun var => ?_
    rw [occurs_nil_iff, hplaceholder]
    simp [String.ext_iff]
  | case2 hplaceholder =>
    refine ⟨rfl, by simp, ?_⟩
    rintro before var ⟨_, after, heq⟩
    simp [token, opening] at heq
  | case3 c rest hplaceholder ih =>
    refine Splits.cons (p := .literal c) ih (.literal hplaceholder) fun var => ?_
    have hnone : placeholder? ((Piece.literal c).written ++ rest) = none := hplaceholder
    rw [occurs_nil_iff, hnone]
    simp

/-! ### Placeholders keep apart -/

/-- Of two placeholders in a text, the one that starts later starts behind the other one. -/
theorem Occurs.apart {other : List Char} {var' : String} (h : Occurs cs before var)
    (h' : Occurs cs other var') (hlt : before.length < other.length) :
    before.length + (token var.toList).length ≤ other.length := by
  obtain ⟨hname, after, rfl⟩ := h
  obtain ⟨hname', after', heq⟩ := h'
  have hprefix : before <+: other :=
    List.prefix_of_prefix_length_le ⟨_, rfl⟩ ⟨_, heq.symm⟩ (Nat.le_of_lt hlt)
  obtain ⟨between, rfl⟩ := hprefix
  have hbetween : between ≠ [] := by
    rintro rfl
    simp at hlt
  rw [List.append_assoc] at heq
  have hinner : Occurs (token var.toList ++ after) between var' :=
    ⟨hname', after', List.append_cancel_left heq⟩
  obtain ⟨later, rfl, _⟩ := ((Stride.token hname).occurs_iff hbetween).mp hinner
  simp

/-- No placeholder reaches over the place where two texts meet. -/
def NoneStraddles (xs ys : List Char) : Prop :=
  ∀ before var, Occurs (xs ++ ys) before var →
    before.length + (token var.toList).length ≤ xs.length ∨ xs.length ≤ before.length

theorem noneStraddles_of_occurs (h : Occurs ys [] var) : NoneStraddles xs ys := by
  intro before other hbefore
  obtain ⟨hname, after, rfl⟩ := h
  by_cases hlt : before.length < xs.length
  · exact .inl (hbefore.apart ⟨hname, after, rfl⟩ hlt)
  · exact .inr (Nat.le_of_not_lt hlt)

theorem Splits.append (hp : Splits xs ps) (hq : Splits ys qs) (hmeet : NoneStraddles xs ys) :
    Splits (xs ++ ys) (ps ++ qs) where
  written_eq := by rw [written_append, hp.written_eq, hq.written_eq]
  isName var hmem := by
    rcases List.mem_append.mp hmem with hmem | hmem
    · exact hp.isName var hmem
    · exact hq.isName var hmem
  exists_piece before var hoccurs := by
    obtain ⟨hname, after, heq⟩ := hoccurs
    rcases hmeet before var ⟨hname, after, heq⟩ with hleft | hright
    · have hprefix : before ++ token var.toList <+: xs := by
        refine List.prefix_of_prefix_length_le ⟨after, ?_⟩ ⟨ys, rfl⟩ (by simpa using hleft)
        rw [heq, List.append_assoc]
      obtain ⟨more, hmore⟩ := hprefix
      obtain ⟨front, back, rfl, hfront⟩ :=
        hp.exists_piece before var ⟨hname, more, by rw [← hmore, List.append_assoc]⟩
      exact ⟨front, back ++ qs, by simp, hfront⟩
    · obtain ⟨later, rfl⟩ : xs <+: before :=
        List.prefix_of_prefix_length_le ⟨ys, rfl⟩ ⟨_, heq.symm⟩ hright
      rw [List.append_assoc] at heq
      obtain ⟨front, back, rfl, rfl⟩ :=
        hq.exists_piece later var ⟨hname, after, List.append_cancel_left heq⟩
      exact ⟨ps ++ front, back, by simp, by rw [written_append, hp.written_eq]⟩

/-! ### What is put in place -/

/-- What a piece is replaced by. -/
def Piece.replaced (env : Environment) : Piece → List Char
  | .literal c => [c]
  | .reference name => ((valueOf? env name).getD "").toList

theorem fill_of_set (hset : ∀ var, .reference var ∈ ps → valueOf? env var ≠ none) :
    fill env ps = .ok (ps.flatMap (Piece.replaced env)) := by
  induction ps with
  | nil => rfl
  | cons p ps ih =>
    have hrest := ih fun var hmem => hset var (List.mem_cons_of_mem p hmem)
    cases p with
    | literal c => simp [fill, hrest, Except.map, Piece.replaced]
    | reference name =>
      obtain ⟨value, hvalue⟩ := Option.ne_none_iff_exists'.mp (hset name List.mem_cons_self)
      simp [fill, hrest, hvalue, Except.map, Piece.replaced]

theorem fill_congr (h : ∀ var, .reference var ∈ ps → valueOf? env' var = valueOf? env var) :
    fill env' ps = fill env ps := by
  induction ps with
  | nil => rfl
  | cons p ps ih =>
    have hrest := ih fun var hmem => h var (List.mem_cons_of_mem p hmem)
    cases p with
    | literal c => simp only [fill, hrest]
    | reference name => simp only [fill, hrest, h name List.mem_cons_self]

theorem fill_append (env : Environment) (ps qs : List Piece) :
    fill env (ps ++ qs) = (fill env ps).bind fun front => (fill env qs).map (front ++ ·) := by
  induction ps with
  | nil => cases hqs : fill env qs <;> simp [fill, hqs, Except.bind, Except.map]
  | cons p ps ih =>
    cases p with
    | literal c =>
      cases hps : fill env ps <;> cases hqs : fill env qs <;>
        simp [fill, ih, hps, hqs, Except.bind, Except.map]
    | reference name =>
      cases hvalue : valueOf? env name with
      | none => simp [fill, hvalue, Except.bind]
      | some value =>
        cases hps : fill env ps <;> cases hqs : fill env qs <;>
          simp [fill, ih, hvalue, hps, hqs, Except.bind, Except.map]

theorem expand_append {s t : String} (h : NoneStraddles s.toList t.toList) :
    expand env (s ++ t) = (expand env s).bind fun front => (expand env t).map (front ++ ·) := by
  have hsplit : split (s ++ t).toList = split s.toList ++ split t.toList := by
    rw [String.toList_append]
    exact splits_unique (splits_split _) ((splits_split _).append (splits_split _) h)
  rw [expand, hsplit, fill_append, expand, expand]
  cases fill env (split s.toList) <;> cases fill env (split t.toList) <;>
    simp [Except.bind, Except.map, String.ofList_append]

/-- Expansion is a substitution in one pass. The placeholders of a text keep apart, and there is one
way to take the text apart into them and the characters between. Where every variable is set, each
piece is replaced in its place, the characters by themselves, and that is all; else the leftmost
variable that is not set is reported. So what comes out depends on no other variable, and texts that
no placeholder straddles are expanded one by one. -/
theorem expansion_is_one_pass (env : Environment) (s : String) :
    (∀ before var later other, Occurs s.toList before var → Occurs s.toList later other →
        before.length < later.length →
          before.length + (token var.toList).length ≤ later.length) ∧
      (∃ ps, Splits s.toList ps ∧ (∀ qs, Splits s.toList qs → qs = ps) ∧
        ((∀ var, Mentions s.toList var → valueOf? env var ≠ none) →
          expand env s = .ok (String.ofList (ps.flatMap (Piece.replaced env))))) ∧
      (∀ var, expand env s = .error ⟨var⟩ ↔ FirstUnset env s.toList var) ∧
      ((∃ var, Mentions s.toList var ∧ valueOf? env var = none) →
        ∃ var, expand env s = .error ⟨var⟩) ∧
      (∀ env', (∀ var, Mentions s.toList var → valueOf? env' var = valueOf? env var) →
        expand env' s = expand env s) ∧
      ∀ t, NoneStraddles s.toList t.toList →
        expand env (s ++ t) =
          (expand env s).bind fun front => (expand env t).map (front ++ ·) := by
  have hsplits := splits_split s.toList
  refine ⟨fun before var later other h h' => h.apart h', ?_, fun var => expand_eq_error_iff, ?_, ?_,
    ?_⟩
  · refine ⟨split s.toList, hsplits, fun qs hqs => splits_unique hqs hsplits, fun hset => ?_⟩
    have hfill := fill_of_set fun var hmem => hset var (hsplits.mentions_iff.mpr hmem)
    rw [expand, hfill]
    rfl
  · rintro ⟨var, hmentions, hunset⟩
    obtain ⟨first, hfirst⟩ := exists_firstUnset hmentions hunset
    exact ⟨first, expand_eq_error_iff.mpr hfirst⟩
  · intro env' hagree
    rw [expand, expand, fill_congr fun var hmem => hagree var (hsplits.mentions_iff.mpr hmem)]
  · intro t hmeet
    exact expand_append hmeet

/-- A variable whose value is written like a placeholder. -/
def nestedValues : Environment := [("A", "$\x7bgetenv:B\x7d"), ("B", "A")]

/-- A text that ends in the opening of a placeholder, and one that puts a name and a closing brace
behind it. -/
def openText : String := "$\x7bgetenv:A\x7d $\x7bgetenv:"

def closingText : String := "$\x7bgetenv:B\x7d\x7d"

theorem substituted_text_is_not_scanned :
    (∀ var, Mentions openText.toList var → valueOf? nestedValues var ≠ none) ∧
      NoneStraddles openText.toList closingText.toList ∧
      expand nestedValues openText = .ok "$\x7bgetenv:B\x7d $\x7bgetenv:" ∧
      expand nestedValues (openText ++ closingText) =
        .ok "$\x7bgetenv:B\x7d $\x7bgetenv:A\x7d" := by
  have hopen : split openText.toList =
      .reference "A" :: (" $\x7bgetenv:".toList.map Piece.literal) := by decide +kernel
  have hclosing : split closingText.toList = [.reference "B", .literal '\x7d'] := by decide +kernel
  have hsplits := hopen ▸ splits_split openText.toList
  have hsplits' := hclosing ▸ splits_split closingText.toList
  obtain ⟨_, ⟨ps, hps, _, hexpand⟩, _, _, _, happend⟩ := expansion_is_one_pass nestedValues openText
  obtain ⟨_, ⟨qs, hqs, _, hexpand'⟩, _⟩ := expansion_is_one_pass nestedValues closingText
  have hset : ∀ var, Mentions openText.toList var → valueOf? nestedValues var ≠ none := by
    intro var hvar
    obtain rfl : var = "A" := by simpa using hsplits.mentions_iff.mp hvar
    decide
  have hset' : ∀ var, Mentions closingText.toList var → valueOf? nestedValues var ≠ none := by
    intro var hvar
    obtain rfl : var = "B" := by simpa using hsplits'.mentions_iff.mp hvar
    decide
  have hmeet : NoneStraddles openText.toList closingText.toList :=
    noneStraddles_of_occurs (hsplits'.occurs_nil_iff.mpr rfl)
  obtain rfl := splits_unique hps hsplits
  obtain rfl := splits_unique hqs hsplits'
  refine ⟨hset, hmeet, hexpand hset, ?_⟩
  rw [happend _ hmeet, hexpand hset, hexpand' hset']
  rfl

end Playbook.Template
