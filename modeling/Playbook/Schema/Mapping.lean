import Playbook.Schema.Scalar
import Playbook.Store
import Playbook.Text.Literal

/-!
Mappings under a schema: declared fields are looked up under one or more spellings, and the keys
that no field used are kept, refused or ignored.
-/

namespace Playbook.Schema

open Check

/-- The spellings of a declared field, the preferred one first. -/
abbrev Spellings := List String

/-- The entry that a field takes its value from: the one under its most preferred spelling. -/
def find? (entries : Entries) : Spellings → Option (String × Value)
  | [] => none
  | key :: rest =>
    match entries.getText? key with
    | some v => some (key, v)
    | none => find? entries rest

/-- A field that has to be there. A missing one is reported under its preferred spelling. -/
def required {α : Type} (entries : Entries) (keys : Spellings) (check : Value → Check α) :
    Check α :=
  match find? entries keys with
  | some (key, v) => (check v).under (.key key)
  | none => (reject .missing).under (.key (keys.headD ""))

/-- A field that may be left out. -/
def whenGiven {α : Type} (entries : Entries) (keys : Spellings) (check : Value → Check α) :
    Check (Option α) :=
  match find? entries keys with
  | some (key, v) => ((check v).under (.key key)).map some
  | none => .pass none

/-- A field that may be left out, for which a default then stands. -/
def withDefault {α : Type} (entries : Entries) (keys : Spellings) (check : Value → Check α)
    (fallback : α) : Check α :=
  (whenGiven entries keys check).map fun found => found.getD fallback

/-- The keys that declared fields took their values from. -/
def usedKeys (entries : Entries) (fields : List Spellings) : List String :=
  fields.filterMap fun keys => (find? entries keys).map Prod.fst

/-- How a key is named in a path: text as it is, a truth value as its number, anything else as its
literal. -/
def keyStep : Value → Step
  | .text s => .key s
  | .bool b => .index b.toNat
  | v => .key v.literal

/-- Keeps the keys that no field used, which have to be text, in their order. -/
def keepOthers (used : List String) : Entries → Check (List (String × Value))
  | [] => .pass []
  | (k, v) :: rest =>
    match k with
    | .text s =>
      if used.contains s then keepOthers used rest
      else Check.map (fun others => (s, v) :: others) (keepOthers used rest)
    | k => (fun _ others => others) <$> (reject (α := Unit) .keyNotText).under (keyStep k) <*>
        keepOthers used rest

/-- Refuses the keys that no field used. -/
def refuseOthers (used : List String) : Entries → Check Unit
  | [] => .pass ()
  | (k, _) :: rest =>
    match k with
    | .text s =>
      if used.contains s then refuseOthers used rest
      else (fun _ _ => ()) <$> (reject (α := Unit) .undeclared).under (.key s) <*>
        refuseOthers used rest
    | k => (fun _ _ => ()) <$> (reject (α := Unit) .keyNotText).under (keyStep k) <*>
        refuseOthers used rest

/-- A mapping with text keys; bytes count as the text they encode. -/
def textKeyed : Entries → Check Entries
  | [] => .pass []
  | (k, v) :: rest =>
    let key := (lenientText k).under (.key "[key]") |>.under (keyStep k)
    (fun s others => (.text s, v) :: others) <$> key <*> textKeyed rest

/-- The entries of a value that is a mapping. -/
def mappingOf (lookup : Lookup) (v : Value) : Check Entries :=
  match v.entries? lookup with
  | some entries => (textKeyed entries).map Entries.ofPairs
  | none => reject .notMapping

/-- The entries of a value that stands for a record of the named type. -/
def recordEntries (lookup : Lookup) (type : String) (v : Value) : Check Entries :=
  match v.entries? lookup with
  | some entries => .pass entries
  | none => reject (.notRecord type)

end Playbook.Schema
