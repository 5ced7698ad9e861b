import Playbook.Config.Attribute
import Playbook.Proofs.Config.Reading
import Playbook.Proofs.Schema.Coercion

/-!
The ways to read a command. A checked command keeps each key of its document, and reading it by
`get`, through its `params` or as an attribute gives the value that the document has there. Two
kinds of keys are apart: a name that every command has as an attribute of its own hides the key as
an attribute, whichever attributes commands have because they are records, and a missing description
reads as null, not as the fallback.
-/

namespace Playbook

open Schema Schema.Check

namespace Command

variable {document : Entries} {lookup : Lookup} {v w : Value} {c : Command} {k : String}
  {inherits : Inheritance}

/-- A name that a command has an attribute under, other than those of its declared fields. -/
def Reserved (inherits : Inheritance) (c : Command) (name : String) : Prop :=
  name ∈ ["params", "model_config", "get", "_check_command"] ∨
    name ≠ "command" ∧ name ≠ "description" ∧ (inherits c name).isSome = true

theorem ite_some_eq_none_iff {p : Prop} [Decidable p] {w : Value} {rest : Option Value} :
    (if p then some w else rest) = none ↔ ¬ p ∧ rest = none := by
  split <;> simp [*]

/-- A command has attributes of its own under reserved names and those of its fields only. -/
theorem ownAttribute?_eq_none_iff (c : Command) (name : String) :
    c.ownAttribute? name inherits = none ↔
      name ≠ "command" ∧ name ≠ "description" ∧ ¬ Reserved inherits c name := by
  simp only [ownAttribute?, Option.or_eq_none_iff, declared?, ite_some_eq_none_iff, Reserved,
    List.mem_cons, List.not_mem_nil, Option.isSome_iff_ne_none]
  tauto

/-! ### What a checked command keeps -/

/-- A command keeps a document: what the document holds for its fields, and the other keys in their
order. -/
structure Keeps (c : Command) (document : Entries) : Prop where
  name : document.getText? "command" = some (.text c.name)
  description : document.getText? "description" = c.description.document .text
  others : passed ["command", "description"] document = textEntries c.others

theorem usedKeys_spellings (document : Entries) :
    usedKeys document spellings =
      ["command", "description"].filter fun key => (document.getText? key).isSome := by
  cases hname : document.getText? "command" <;>
    cases hdescription : document.getText? "description" <;>
      simp [usedKeys, spellings, find?, hname, hdescription]

/-- A declared key that is not there leaves nothing out. -/
theorem passed_usedKeys (document : Entries) :
    passed (usedKeys document spellings) document = passed ["command", "description"] document := by
  refine List.filter_congr fun e hmem => ?_
  obtain ⟨key, w⟩ := e
  cases key with
  | text s =>
    have hthere : (document.getText? s).isSome = true :=
      Option.isSome_iff_ne_none.mpr (Entries.getText?_ne_none_of_mem hmem)
    have hused : (usedKeys document spellings).contains s = ["command", "description"].contains s := by
      rw [usedKeys_spellings, Bool.eq_iff_iff, List.contains_iff_mem, List.contains_iff_mem,
        List.mem_filter]
      exact and_iff_left hthere
    rw [isOther, isOther, hused]
  | _ => rfl

theorem keeps_of_check (hdocument : v.entries? lookup = some document)
    (h : Command.check lookup v = .pass c) : c.Keeps document := by
  have hpass : ofEntries document = .pass c := by
    have hentries : (recordEntries lookup "Command" v).andThen ofEntries = .pass c := by
      cases v <;> first | exact h | cases hdocument
    obtain ⟨_, hrecord, hpass⟩ := andThen_eq_pass_iff.mp hentries
    rw [recordEntries_eq_pass_iff, hdocument] at hrecord
    cases hrecord
    exact hpass
  obtain ⟨⟨w, hfound, hname⟩, hdescription, hothers⟩ := ofEntries_eq_pass_iff.mp hpass
  rw [found?_single] at hfound hdescription
  refine ⟨?_, ?_, ?_⟩
  · rw [hfound, exact_checkName hname]
  · exact (hdescription.document_eq exact_strictText).symm
  · rw [← passed_usedKeys, hothers]

namespace Keeps

theorem lookup_others (h : c.Keeps document) (k : String) :
    c.others.lookup k = if k = "command" ∨ k = "description" then none else document.getText? k := by
  rw [← getText?_textEntries, ← h.others, getText?_passed]
  simp

theorem get_eq (h : c.Keeps document) (k : String) (d : Value) :
    c.get k d =
      (document.getText? k).getD (if k = "description" then .null else d) := by
  unfold Command.get
  by_cases hname : k = "command"
  · subst hname
    rw [if_pos rfl, h.name]
    rfl
  · rw [if_neg hname]
    by_cases hdescription : k = "description"
    · subst hdescription
      rw [if_pos rfl, if_pos rfl, h.description]
      cases c.description <;> rfl
    · rw [if_neg hdescription, if_neg hdescription, h.lookup_others, if_neg (by tauto)]

theorem getText?_params (h : c.Keeps document) (hname : k ≠ "command")
    (hdescription : k ≠ "description") : c.params.getText? k = document.getText? k := by
  rw [params, getText?_textEntries, h.lookup_others, if_neg (by tauto)]

theorem attribute?_eq (h : c.Keeps document) (hfree : ¬ Reserved inherits c k) :
    c.attribute? k inherits =
      (document.getText? k).or (if k = "description" then some .null else none) := by
  unfold attribute?
  by_cases hname : k = "command"
  · subst hname
    rw [h.name]
    rfl
  · by_cases hdescription : k = "description"
    · subst hdescription
      have hown : c.ownAttribute? "description" inherits = some (c.description.value .text) := rfl
      rw [hown, if_pos rfl, h.description]
      cases c.description <;> rfl
    · have hown : c.ownAttribute? k inherits = none :=
        (c.ownAttribute?_eq_none_iff k).mpr ⟨hname, hdescription, hfree⟩
      rw [hown, if_neg hdescription, Option.none_or, Option.or_none, h.lookup_others,
        if_neg (by tauto)]

end Keeps

theorem attribute?_of_reserved (c : Command) (hreserved : Reserved inherits c k) :
    c.attribute? k inherits = c.ownAttribute? k inherits ∧
      (c.ownAttribute? k inherits).isSome = true := by
  cases hown : c.ownAttribute? k inherits with
  | none => exact absurd hreserved ((c.ownAttribute?_eq_none_iff k).mp hown).2.2
  | some w => exact ⟨by rw [attribute?, hown, Option.some_or], rfl⟩

/-- A command that was checked from a document reads as the document does: `get` gives what the
document has under a key and the fallback where it has nothing, save that a description that is
left out reads as null; `params` has the keys other than the declared ones, in their order; and a
key is an attribute of the same value, unless commands have an attribute of that name themselves,
which they are declared with or which they inherit. That goes for whatever records have. -/
theorem accessors_read_document (inherits : Inheritance)
    (hdocument : v.entries? lookup = some document) (h : Command.check lookup v = .pass c) :
    (∀ k d, c.get k d = (document.getText? k).getD (if k = "description" then .null else d)) ∧
      (∀ k, k ≠ "command" → k ≠ "description" → c.params.getText? k = document.getText? k) ∧
      (∀ k, ¬ Reserved inherits c k → c.attribute? k inherits =
        (document.getText? k).or (if k = "description" then some .null else none)) ∧
      (∀ k, Reserved inherits c k → c.attribute? k inherits = c.ownAttribute? k inherits ∧
        (c.ownAttribute? k inherits).isSome = true) ∧
      c.attribute? "params" inherits = some (.map c.params) ∧
      c.params = document.filter fun e => isOther ["command", "description"] e.1 := by
  have hkeeps : c.Keeps document := keeps_of_check hdocument h
  refine ⟨hkeeps.get_eq, ?_, ?_, ?_, rfl, hkeeps.others.symm⟩
  · exact fun k hname hdescription => hkeeps.getText?_params hname hdescription
  · exact fun k hfree => hkeeps.attribute?_eq hfree
  · exact fun k hreserved => c.attribute?_of_reserved hreserved

/-- A command with a key of its own and one of the name that its keys go by. -/
def crowded : Entries := textEntries [("command", .text "at"), ("x", .int 1), ("params", .int 2)]

def crowdedCommand : Command := ⟨"at", .absent, [("x", .int 1), ("params", .int 2)]⟩

theorem check_crowded : Command.check (fun _ => none) (.map crowded) = .pass crowdedCommand := rfl

theorem crowded_reads_document :
    crowdedCommand.get "params" .null = .int 2 ∧ crowdedCommand.attribute? "x" = some (.int 1) ∧
      crowdedCommand.attribute? "params" = some (.map (crowded.drop 1)) ∧
      crowdedCommand.params = crowded.drop 1 := by
  obtain ⟨hget, _, hattribute, _, hhidden, hparams⟩ :=
    accessors_read_document inherited? rfl check_crowded
  have hfree : ¬ Reserved inherited? crowdedCommand "x" := by
    unfold Reserved
    decide
  exact ⟨hget "params" .null, hattribute "x" hfree, hhidden, hparams⟩

/-- The accessors do not agree on every key and a fallback does not stand for every missing one: as
an attribute `params` is the row of further keys, and a description that is left out is null. This
is so whatever commands inherit. -/
theorem crowded_keys_read_differently :
    ∃ (document : Entries) (c : Command),
      Command.check (fun _ => none) (.map document) = .pass c ∧
      (document.getText? "params" = some (.int 2) ∧
        ∀ inherits, c.attribute? "params" inherits ≠ some (.int 2)) ∧
      document.getText? "description" = none ∧
      c.get "description" (.text "none") ≠ .text "none" := by
  refine ⟨crowded, crowdedCommand, check_crowded, ⟨rfl, ?_⟩, rfl, ?_⟩
  · rintro _ ⟨⟩
  · rintro ⟨⟩

end Command

end Playbook
