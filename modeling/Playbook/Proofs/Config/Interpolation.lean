import Playbook.Proofs.Config.Reading
import Playbook.Proofs.Template.Shape

/-!
Placeholders in documents. What variables hold never decides which parts a document has: either some
variable is not set, and the first such one is reported before the schema is asked, or the document
that is checked differs from the parsed one in its texts only. Values are taken as they are; of a
mutable mapping that lives in a store it is the snapshot that is filled in.
-/

namespace Playbook

open Template

variable {env : Environment} {texts : List String} {var : String} {v : Value}

/-- Some text holds a placeholder for a variable that is not set. -/
def SomeUnset (env : Environment) (texts : List String) : Prop :=
  ∃ s ∈ texts, ∃ var, Mentions s.toList var ∧ valueOf? env var = none

theorem someUnset_iff_failure :
    SomeUnset env texts ↔ ∃ e, texts.findSome? (failure? env) = some e := by
  constructor
  · rintro ⟨s, hmem, var, hmentions, hunset⟩
    have hfails : failure? env s ≠ none := by
      intro hnone
      exact failure?_eq_none_iff.mp hnone var hmentions hunset
    rw [← Option.ne_none_iff_exists', Ne, List.findSome?_eq_none_iff]
    intro hall
    exact hfails (hall s hmem)
  · rintro ⟨e, hfind⟩
    obtain ⟨before, s, after, rfl, hfirst, _⟩ := findSome?_failure?_eq_some_iff.mp hfind
    exact ⟨s, by simp, e.name, hfirst.mentions⟩

theorem not_someUnset_iff :
    ¬ SomeUnset env texts ↔ texts.findSome? (failure? env) = none := by
  rw [someUnset_iff_failure, ← Option.ne_none_iff_exists', not_not]

theorem expandValue_eq_error_iff :
    expandValue env v = .error ⟨var⟩ ↔ FirstUnsetAmong env v.texts var := by
  rw [expandValue_eq, ← findSome?_failure?_eq_some_iff]
  cases v.texts.findSome? (failure? env) <;> simp [settled]

theorem exists_expandValue_error_iff :
    (∃ e, expandValue env v = .error e) ↔ SomeUnset env v.texts := by
  rw [expandValue_eq, someUnset_iff_failure]
  cases v.texts.findSome? (failure? env) <;> simp [settled]

/-- Where every variable is set, each text is replaced by what it stands for. -/
theorem exists_mapTexts_of_set (hset : ¬ SomeUnset env v.texts) :
    ∃ f, expandValue env v = .ok (v.mapTexts f) ∧ ∀ s ∈ v.texts, expand env s = .ok (f s) := by
  have hnone := not_someUnset_iff.mp hset
  refine ⟨filled env, by rw [expandValue_eq, hnone, settled], fun s hmem => ?_⟩
  exact expand_eq_ok_filled (List.findSome?_eq_none_iff.mp hnone s hmem)

theorem Loader.parseYaml_of_map {l : Loader} {text : String} {entries : Entries}
    (hread : l.around.read text = .ok (.map entries)) :
    l.parseYaml text = match expandValue l.environment (.map entries) with
      | .error e => .error (.config (.unset e))
      | .ok w => (Loader.check .none w).mapError .config := by
  rw [Loader.parseYaml, hread]
  simp only [Loader.checkDocument]
  cases expandValue l.environment (.map entries) with
  | error e => rfl
  | ok w => cases hcheck : Loader.check .none w <;> simp [hcheck, Except.mapError]

theorem texts_listOfTexts (texts : List String) : (Value.list (texts.map .text)).texts = texts := by
  change itemTexts (texts.map .text) = texts
  induction texts with
  | nil => rfl
  | cons s rest ih => rw [List.map_cons, itemTexts, ih]; rfl

/-- Of a mapping without an end the first text counts that mentions a variable which is not set. -/
theorem Loader.problemError_endless (l : Loader) (met : List String) :
    l.problemError (.endless true met) =
      match met.findSome? (failure? l.environment) with
      | some e => .config (.unset e)
      | none => .fault .endless := by
  rw [Loader.problemError, expandValue_eq, texts_listOfTexts]
  cases met.findSome? (failure? l.environment) <;> rfl

/-- Interpolation covers a value from end to end. It fails exactly when some text at a value
position mentions a variable that is not set, and reports the first such variable; else it replaces
each text in its place, so that what comes out has the same skeleton under every environment. A
document that parses to a mapping is only held to the schema when all the variables it mentions are
set. -/
theorem interpolation_covers_documents (env : Environment) (v : Value) (l : Loader)
    (text : String) :
    (∀ var, expandValue env v = .error ⟨var⟩ ↔ FirstUnsetAmong env v.texts var) ∧
      ((∃ e, expandValue env v = .error e) ↔ SomeUnset env v.texts) ∧
      (¬ SomeUnset env v.texts → ∃ w, expandValue env v = .ok w ∧ w.skeleton = v.skeleton ∧
        ∃ f, w = v.mapTexts f ∧ ∀ s ∈ v.texts, expand env s = .ok (f s)) ∧
      ∀ entries, l.around.read text = .ok (.map entries) →
        (∀ var, l.parseYaml text = .error (.config (.unset ⟨var⟩)) ↔
          FirstUnsetAmong l.environment (Value.map entries).texts var) ∧
        (SomeUnset l.environment (Value.map entries).texts →
          ∃ var, l.parseYaml text = .error (.config (.unset ⟨var⟩))) ∧
        (¬ SomeUnset l.environment (Value.map entries).texts → ∃ w,
          l.parseYaml text = (Loader.check .none w).mapError .config ∧
          w.skeleton = (Value.map entries).skeleton ∧
          ∃ f, w = (Value.map entries).mapTexts f ∧
            ∀ s ∈ (Value.map entries).texts, expand l.environment s = .ok (f s)) := by
  refine ⟨fun var => expandValue_eq_error_iff, exists_expandValue_error_iff, ?_, ?_⟩
  · intro hset
    obtain ⟨f, hexpand, hf⟩ := exists_mapTexts_of_set hset
    exact ⟨_, hexpand, v.skeleton_mapTexts f, f, rfl, hf⟩
  · intro entries hread
    refine ⟨fun var => ?_, ?_, ?_⟩
    · rw [Loader.parseYaml_of_map hread, ← expandValue_eq_error_iff]
      cases expandValue l.environment (.map entries) with
      | error e => simp
      | ok w =>
        cases hcheck : Loader.check .none w with
        | ok c => simp [hcheck, Except.mapError]
        | error e =>
          obtain ⟨issues, _, rfl⟩ := Loader.check_eq_error_iff.mp hcheck
          simp [hcheck, Except.mapError]
    · intro hunset
      obtain ⟨e, he⟩ := exists_expandValue_error_iff.mpr hunset
      exact ⟨e.name, by rw [Loader.parseYaml_of_map hread, he]⟩
    · intro hset
      obtain ⟨f, hexpand, hf⟩ := exists_mapTexts_of_set hset
      refine ⟨_, ?_, Value.skeleton_mapTexts f _, f, rfl, hf⟩
      rw [Loader.parseYaml_of_map hread, hexpand]

/-- A text in a place that the schema ignores mentions two variables that are not set, and the
document breaks the schema as well. -/
def ignoredMention : String :=
  "version: $\x7bgetenv:A\x7d\nextra:\n  - [1, '$\x7bgetenv:B\x7d $\x7bgetenv:C\x7d']\ncommands: 3"

/-- The texts of a document that is a mapping, which can be computed of it and compared. -/
def mappingTexts? : Except Yaml.Problem Value → Option (List String)
  | .ok (.map entries) => some (Value.map entries).texts
  | _ => none

theorem exists_entries_of_mappingTexts? {document : Except Yaml.Problem Value}
    (h : mappingTexts? document = some texts) :
    ∃ entries, document = .ok (.map entries) ∧ (Value.map entries).texts = texts := by
  cases document with
  | error p => cases h
  | ok v =>
    cases v with
    | map entries => exact ⟨entries, rfl, Option.some.inj h⟩
    | _ => cases h

theorem ignored_mention_is_reported :
    ∃ entries, Yaml.readDocument ignoredMention = .ok (.map entries) ∧
      (FirstUnsetAmong [("A", "1")] (Value.map entries).texts "B" ∧
        (Loader.mk [("A", "1")] .empty).parseYaml ignoredMention =
          .error (.config (.unset ⟨"B"⟩))) ∧
      ¬ SomeUnset [("A", ""), ("B", "]"), ("C", "\n-")] (Value.map entries).texts ∧
      ∃ w, w.skeleton = (Value.map entries).skeleton ∧
        (Loader.mk [("A", ""), ("B", "]"), ("C", "\n-")] .empty).parseYaml ignoredMention =
          (Loader.check .none w).mapError .config := by
  have hread : mappingTexts? (Yaml.readDocument ignoredMention) =
      some ["$\x7bgetenv:A\x7d", "$\x7bgetenv:B\x7d $\x7bgetenv:C\x7d"] := by
    decide +kernel
  obtain ⟨entries, hdocument, htexts⟩ := exists_entries_of_mappingTexts? hread
  have hfirst : FirstUnsetAmong [("A", "1")] (Value.map entries).texts "B" := by
    rw [htexts]
    exact findSome?_failure?_eq_some_iff.mp (by decide +kernel)
  have hset : ¬ SomeUnset [("A", ""), ("B", "]"), ("C", "\n-")] (Value.map entries).texts := by
    rw [not_someUnset_iff, htexts]
    decide +kernel
  have hshort := interpolation_covers_documents [] .null ⟨[("A", "1")], .empty⟩ ignoredMention
  have hfull := interpolation_covers_documents [] .null
    ⟨[("A", ""), ("B", "]"), ("C", "\n-")], .empty⟩ ignoredMention
  obtain ⟨w, hparse, hskeleton, _⟩ := (hfull.2.2.2 entries hdocument).2.2 hset
  exact ⟨entries, hdocument, ⟨hfirst, ((hshort.2.2.2 entries hdocument).1 "B").mpr hfirst⟩,
    hset, w, hskeleton, hparse⟩

end Playbook
