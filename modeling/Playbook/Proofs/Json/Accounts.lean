import Playbook.Outcome.Check
import Playbook.Proofs.Json.Laws

/-!
The account of a run as a document. Whichever way values are written, everything in an account but
the payloads of its results is written in one way only, so that the document of a run has an entry
for each recorded result in their order, which tells the result with its payload as it is written.
-/

namespace Playbook

/-- The document on an error of a command. -/
def CommandError.document (e : CommandError) : Json :=
  .object
    [("type", .text e.type.name), ("message", .text e.message), ("selector", .ofText? e.selector),
      ("context", .object [("url", .text e.context.url), ("timestamp", .int e.context.timestamp)]),
      ("suggestions", match e.suggestions with
        | none => .null
        | some items => .list (items.map .text))]

/-- The document on a result with a payload. -/
def CommandResult.document (r : CommandResult) (data : Json) : Json :=
  .object
    [("command", .text r.command), ("command_index", .ofNat r.index), ("success", .bool r.success),
      ("duration", .ofNat r.duration), ("error", match r.error with
        | none => .null
        | some e => e.document),
      ("data", data)]

/-- What the document on a run tells before its results. -/
def RunResult.summary (identifier : Option String) (r : RunResult) : List (String × Json) :=
  (identifier.map fun name => ("execution_id", Json.text name)).toList ++
    [("success", .bool r.success), ("config_name", .ofText? r.configName),
      ("backend", .ofText? (r.backend.map Backend.name)), ("total_commands", .int r.totalCommands),
      ("success_count", .int r.successCount), ("error_count", .int r.errorCount),
      ("duration", .int r.duration)]

/-- The document on a run with an entry for each of its results. -/
def RunResult.document (identifier : Option String) (r : RunResult) (entries : List Json) : Json :=
  .object (r.summary identifier ++ [("results", .list entries)])

/-- The account of a run shows what the payloads of its results show. -/
theorem RunResult.displays_of_payload {μ : Type} {store : Store μ} {P : Value → Prop}
    {result : CommandResult} (r : RunResult) (hmem : result ∈ r.results)
    (hdisplays : store.Displays P result.data) (identifier : Option String) :
    store.Displays P (r.toRecord identifier) := by
  have hentry : store.Displays P result.toRecord := .part (by
    simp [CommandResult.toRecord, Store.parts, Store.opened, Value.parts, plainSlot]) hdisplays
  have hrow : store.Displays P (.list (r.results.map CommandResult.toRecord)) :=
    .part (List.mem_map_of_mem hmem) hentry
  exact .part (by simp [RunResult.toRecord, Store.parts, Store.opened, Value.parts, plainSlot]) hrow

namespace Json.Encoder

variable {μ : Type} {enc : Encoder μ} {limits : Limits} {s : Store μ} {v : Value} {j : Json}

/-- An entry tells a result: each of its fields, with the payload as it is written. -/
def Tells (enc : Encoder μ) (s : Store μ) (r : CommandResult) (entry : Json) : Prop :=
  ∃ data, enc.write s r.data = .ok data ∧ entry = r.document data

/-- If a value is written at all, then as that document. -/
def WritesAs (enc : Encoder μ) (s : Store μ) (v : Value) (j : Json) : Prop :=
  ∀ found, enc.write s v = .ok found → found = j

theorem writesAs_of_write (h : enc.write s v = .ok j) : enc.WritesAs s v j := by
  intro found hfound
  exact Except.ok.inj (hfound.symm.trans h)

namespace Laws

theorem writesAs_record (laws : enc.Laws limits) {type : String} {slots : List (Slot × Value)}
    {fields : List (String × Json)}
    (h : List.Forall₂ (fun slot field => field.1 = slot.1.key ∧ enc.WritesAs s slot.2 field.2)
      slots fields) : enc.WritesAs s (.record type slots) (.object fields) := by
  intro found hfound
  obtain ⟨others, rfl, hothers⟩ := laws.record hfound
  refine congrArg Json.object ?_
  clear hfound
  induction h generalizing others with
  | nil =>
    cases hothers
    rfl
  | cons hfirst _ ih =>
    cases hothers with
    | cons hother hrest =>
      obtain ⟨hkey, hvalue⟩ := hother
      rw [ih _ hrest]
      exact congrArg (· :: _) (Prod.ext (hkey.trans hfirst.1.symm) (hfirst.2 _ hvalue))

theorem writesAs_null (laws : enc.Laws limits) : enc.WritesAs s .null .null :=
  writesAs_of_write (laws.null s)

theorem writesAs_bool (laws : enc.Laws limits) (b : Bool) : enc.WritesAs s (.bool b) (.bool b) :=
  writesAs_of_write (laws.bool s b)

theorem writesAs_int (laws : enc.Laws limits) (n : Int) : enc.WritesAs s (.int n) (.int n) :=
  fun _ => laws.int

theorem writesAs_text (laws : enc.Laws limits) (t : String) : enc.WritesAs s (.text t) (.text t) :=
  fun _ => laws.text

theorem writesAs_ofText? (laws : enc.Laws limits) (t : Option String) :
    enc.WritesAs s (.ofText? t) (.ofText? t) := by
  cases t with
  | none => exact laws.writesAs_null
  | some t => exact laws.writesAs_text t

theorem writesAs_texts (laws : enc.Laws limits) (items : List String) :
    enc.WritesAs s (.list (items.map .text)) (.list (items.map .text)) := by
  intro found hfound
  obtain ⟨js, rfl, hrow⟩ := laws.list hfound
  rw [List.forall₂_map_left_iff] at hrow
  refine congrArg Json.list ?_
  clear hfound
  induction hrow with
  | nil => rfl
  | cons hfirst _ ih => rw [List.map_cons, laws.text hfirst, ih]

theorem writesAs_error (laws : enc.Laws limits) (e : CommandError) :
    enc.WritesAs s e.toRecord e.document := by
  have hcontext : enc.WritesAs s e.context.toRecord
      (.object [("url", .text e.context.url), ("timestamp", .int e.context.timestamp)]) :=
    laws.writesAs_record
      (.cons ⟨rfl, laws.writesAs_text _⟩ (.cons ⟨rfl, laws.writesAs_int _⟩ .nil))
  refine laws.writesAs_record (.cons ⟨rfl, laws.writesAs_text _⟩
    (.cons ⟨rfl, laws.writesAs_text _⟩ (.cons ⟨rfl, laws.writesAs_ofText? _⟩
      (.cons ⟨rfl, hcontext⟩ (.cons ⟨rfl, ?_⟩ .nil)))))
  cases e.suggestions with
  | none => exact laws.writesAs_null
  | some items => exact laws.writesAs_texts items

/-- What is written for a result tells it. -/
theorem tells_of_write (laws : enc.Laws limits) {r : CommandResult}
    (hwritten : enc.write s r.toRecord = .ok j) : enc.Tells s r j := by
  obtain ⟨data, hdata⟩ : enc.Writes s r.data :=
    laws.part ⟨j, hwritten⟩ (by simp [CommandResult.toRecord, Store.parts, Store.opened, Value.parts,
      plainSlot])
  refine ⟨data, hdata, laws.writesAs_record (.cons ⟨rfl, laws.writesAs_text _⟩
    (.cons ⟨rfl, laws.writesAs_int _⟩ (.cons ⟨rfl, laws.writesAs_bool _⟩
      (.cons ⟨rfl, laws.writesAs_int _⟩ (.cons ⟨rfl, ?_⟩
        (.cons ⟨rfl, writesAs_of_write hdata⟩ .nil)))))) j hwritten⟩
  cases r.error with
  | none => exact laws.writesAs_null
  | some e => exact laws.writesAs_error e

/-- What is written for a run is its document, with an entry for each result that tells it. -/
theorem document_of_write (laws : enc.Laws limits) {identifier : Option String} {r : RunResult}
    (hwritten : enc.write s (r.toRecord identifier) = .ok j) :
    ∃ entries, List.Forall₂ (enc.Tells s) r.results entries ∧
      j = r.document identifier entries := by
  obtain ⟨rows, hrows⟩ : enc.Writes s (.list (r.results.map CommandResult.toRecord)) :=
    laws.part ⟨j, hwritten⟩ (by simp [RunResult.toRecord, Store.parts, Store.opened, Value.parts,
      plainSlot])
  obtain ⟨entries, rfl, heach⟩ := laws.list hrows
  rw [List.forall₂_map_left_iff] at heach
  refine ⟨entries, heach.imp fun _ _ => laws.tells_of_write, ?_⟩
  have hfields : List.Forall₂ (fun slot field => field.1 = slot.1.key ∧
      enc.WritesAs s slot.2 field.2)
      [plainSlot "success" (.bool r.success), plainSlot "config_name" (.ofText? r.configName),
        plainSlot "backend" (.ofText? (r.backend.map Backend.name)),
        plainSlot "total_commands" (.int r.totalCommands),
        plainSlot "success_count" (.int r.successCount),
        plainSlot "error_count" (.int r.errorCount), plainSlot "duration" (.int r.duration),
        plainSlot "results" (.list (r.results.map CommandResult.toRecord))]
      (r.summary none ++ [("results", .list entries)]) :=
    .cons ⟨rfl, laws.writesAs_bool _⟩ (.cons ⟨rfl, laws.writesAs_ofText? _⟩
      (.cons ⟨rfl, laws.writesAs_ofText? _⟩ (.cons ⟨rfl, laws.writesAs_int _⟩
        (.cons ⟨rfl, laws.writesAs_int _⟩ (.cons ⟨rfl, laws.writesAs_int _⟩
          (.cons ⟨rfl, laws.writesAs_int _⟩ (.cons ⟨rfl, writesAs_of_write hrows⟩ .nil)))))))
  cases identifier with
  | none => exact laws.writesAs_record hfields j hwritten
  | some name =>
    exact laws.writesAs_record (.cons ⟨rfl, laws.writesAs_text name⟩ hfields) j hwritten

end Laws

end Json.Encoder

end Playbook
