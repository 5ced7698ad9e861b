import Playbook.Proofs.Json.Accounts
import Playbook.Proofs.Json.Standard
import Playbook.Proofs.Operator.Outcomes
import Playbook.Report

/-!
Reports as documents. However values are written, the document on a run lists one entry for each
recorded result in their order, and plain data within the limits of the writer is in the way of no
document. Bytes that encode no text are, at any depth at which they would have to show.
-/

namespace Playbook

namespace Json

/-! ### Texts of documents -/

theorem renderFields_append (level : Nat) (first second : List (String × Json)) :
    renderFields level (first ++ second) =
      renderFields level first ++ renderFields level second := by
  induction first with
  | nil => rfl
  | cons field rest ih =>
    obtain ⟨name, j⟩ := field
    simp only [List.cons_append, renderFields, ih, List.append_assoc]

/-- The last field of an object stands at the end of its text, with only a bracket behind. -/
theorem exists_render_last (level : Nat) (fields : List (String × Json)) (name : String)
    (j : Json) : ∃ lead, render level (.object (fields ++ [(name, j)])) =
      lead ++ textText name ++ ':' :: ' ' :: render (level + 1) j ++ newLine level ++
        ['\x7d'] := by
  cases fields with
  | nil => exact ⟨'\x7b' :: newLine (level + 1), by simp [render, renderFields]⟩
  | cons field rest =>
    obtain ⟨key, first⟩ := field
    refine ⟨'\x7b' :: newLine (level + 1) ++ textText key ++ ':' :: ' ' ::
      render (level + 1) first ++ renderFields (level + 1) rest ++ ',' :: newLine (level + 1), ?_⟩
    simp [render, renderFields, renderFields_append]

/-- Bytes that encode no text stand for a value, or for one of its keys. -/
def Garbles {μ : Type} (s : Store μ) (v : Value) : Prop :=
  ∃ bs, Text.ofUtf8? bs = none ∧ (v = .bytes bs ∨ .bytes bs ∈ s.keys v)

end Json

namespace Report

open Json (Encoder Limits)

variable {μ : Type} {enc : Encoder μ} {limits : Limits} {store : Store μ} {identifier : String}
  {t : TestResult} {run : RunResult}

/-! ### Reports -/

/-- A document accounts for a run: it has one entry for each recorded result in their order, and
its text lists these entries at the end. -/
def Accounts (enc : Encoder μ) (store : Store μ) (identifier : String) (run : RunResult)
    (document : Json) : Prop :=
  ∃ entries, List.Forall₂ (enc.Tells store) run.results entries ∧
    document = run.document (some identifier) entries ∧
    ∃ lead, document.pretty.toList = lead ++ Json.textText "results" ++ ':' :: ' ' ::
      Json.render 1 (.list entries) ++ ['\n', '\x7d']

theorem accounts_of_write (laws : enc.Laws limits) {document : Json}
    (hwritten : enc.write store (run.toRecord (some identifier)) = .ok document) :
    Accounts enc store identifier run document := by
  obtain ⟨entries, heach, hshape⟩ := laws.document_of_write hwritten
  obtain ⟨lead, hlead⟩ :=
    Json.exists_render_last 0 (run.summary (some identifier)) "results" (.list entries)
  refine ⟨entries, heach, hshape, lead, ?_⟩
  rw [hshape, RunResult.document, Json.pretty, String.toList_ofList, hlead,
    List.append_assoc _ _ ['\x7d']]
  rfl

theorem not_writes_of_garbles (laws : enc.Laws limits) {v : Value} (h : Json.Garbles store v) :
    ¬ enc.Writes store v := by
  obtain ⟨bs, hnone, rfl | hkey⟩ := h
  · exact laws.bytes hnone
  · exact laws.keyBytes hkey hnone

/-- The document on a tried configuration, however values are written. Where there was no result it
tells the error. Otherwise it accounts for the run, if there is one. There is one when the account
of the run is plain data within the limits of the writer, and there is none when bytes that encode
no text would have to show in the payload of a recorded result, at whatever depth. -/
theorem documents_account_for_runs (enc : Encoder μ) (limits : Limits) (laws : enc.Laws limits)
    (store : Store μ) (identifier : String) (t : TestResult) :
    (t.result = none → testDocument store identifier t enc =
      .ok (.object [("success", .bool false), ("error", .ofText? t.error)])) ∧
    ∀ run, t.result = some run →
      (∀ document, testDocument store identifier t enc = .ok document →
        Accounts enc store identifier run document) ∧
      (limits.allows store limits.depth (run.toRecord (some identifier)) = true →
        ∃ document, testDocument store identifier t enc = .ok document) ∧
      ((∃ result ∈ run.results, store.Displays (Json.Garbles store) result.data) →
        ∀ document, testDocument store identifier t enc ≠ .ok document) := by
  refine ⟨fun hnone => by rw [testDocument, hnone], fun run hrun => ?_⟩
  have hwrite : testDocument store identifier t enc =
      enc.write store (run.toRecord (some identifier)) := by
    rw [testDocument, hrun]
  rw [hwrite]
  refine ⟨fun document => accounts_of_write laws, fun hallow => ?_, ?_⟩
  · exact laws.writes_of_allows hallow (Nat.le_refl _)
  · rintro ⟨result, hmem, hgarbled⟩ document hdocument
    exact laws.not_writes_of_displays (fun v => not_writes_of_garbles laws)
      (run.displays_of_payload hmem hgarbled (some identifier)) ⟨document, hdocument⟩

/-- A payload of many kinds: containers in one another, keys that are no texts, readable bytes, a
mapping object, an object without attributes and something to call. -/
def motley : Value :=
  .map
    [(.tuple [.int 1, .null], .list [.tuple [.bytes [0x61]], .set [.date ⟨2020, 1, 1⟩]]),
      (.bytes [0x62], .handle (.named "session")), (.bool true, .handle (.named "window")),
      (.callable, .frozenMap [(.text "opened", .callable)])]

def motleyStore : Store Part :=
  { cells := [(.named "session", ⟨.mapping, [(.text "cookies", .list [])], []⟩),
      (.named "window", ⟨.object, [], []⟩)] }

/-- A run of two commands, of which the first reports a payload and the second reports nothing. -/
def runReporting (payload : Value) : RunResult :=
  { success := true, configName := none, backend := some .inProcess, totalCommands := 2
    successCount := 2, errorCount := 0, duration := 0
    results := [⟨"look", 0, true, 0, none, payload⟩, ⟨"click", 1, true, 0, none, .null⟩] }

/-- Room for what commands usually report. -/
def usual : Json.Limits := ⟨9, 18, fun _ => true⟩

/-- A payload of plain data, in the mapping object of a session. -/
def titled : Value :=
  .ofFields [("title", .text "start"), ("visits", .list [.int 3, .handle (.named "session")])]

/-- Plain data is written, that payload of many kinds is, and so is the error where there is no
result. -/
theorem motley_payload_is_written :
    (∃ document, testDocument motleyStore "run"
        ⟨true, none, some (runReporting titled), none⟩ = .ok document) ∧
    (∃ document entries, testDocument motleyStore "run"
        ⟨true, none, some (runReporting motley), none⟩ = .ok document ∧
      entries.length = 2 ∧
      document = (runReporting motley).document (some "run") entries) ∧
    testDocument motleyStore "run" ⟨false, none, none, some "no page"⟩ =
      .ok (.object [("success", .bool false), ("error", .text "no page")]) := by
  have hlaws : (Encoder.showing : Encoder Part).Laws usual := Encoder.standard_laws true usual
  have htold (t : TestResult) :=
    documents_account_for_runs Encoder.showing usual hlaws motleyStore "run" t
  obtain ⟨_, hplain⟩ := htold ⟨true, none, some (runReporting titled), none⟩
  obtain ⟨_, hmotley⟩ := htold ⟨true, none, some (runReporting motley), none⟩
  obtain ⟨herror, _⟩ := htold ⟨false, none, none, some "no page"⟩
  have hallow : usual.allows motleyStore usual.depth
      ((runReporting titled).toRecord (some "run")) = true := by
    decide +kernel
  have hsome : (testDocument motleyStore "run"
      ⟨true, none, some (runReporting motley), none⟩).toOption.isSome = true := by
    decide +kernel
  obtain ⟨document, hdocument⟩ := Option.isSome_iff_exists.mp hsome
  have hwritten := eq_ok_of_toOption hdocument
  obtain ⟨entries, heach, hshape, _⟩ := (hmotley _ rfl).1 document hwritten
  exact ⟨(hplain _ rfl).2.1 hallow,
    ⟨document, entries, hwritten, heach.length_eq.symm, hshape⟩, herror rfl⟩

/-- A command succeeds and reports bytes that encode no text. The operator is told of the success,
but there is no document on it. -/
theorem unreadable_bytes_counterexample :
    let look : Part := { answer := .ok (.result ⟨"look", 0, true, 0, none, .bytes [0xff]⟩) }
    let told := Part.engine.handleExecute ⟨[], .empty⟩ .null
      (.value (.list [.ofFields [("command", .text "look")]])) .null .null
      (Part.stage [("look", look)] {} .empty)
    ∃ t, told.1 = .ok t ∧ t.success = true ∧
      testDocument told.2.scene.store "run" t = .error .notUtf8 := by
  intro look told
  have htold : told.1.toOption.map (fun t => (t.success,
      problem? (testDocument told.2.scene.store "run" t))) = some (true, some .notUtf8) := by
    decide +kernel
  obtain ⟨t, ht, hseen⟩ := Option.map_eq_some_iff.mp htold
  obtain ⟨hsuccess, hproblem⟩ := Prod.mk.inj hseen
  exact ⟨t, eq_ok_of_toOption ht, hsuccess, problem?_eq_some_iff.mp hproblem⟩

end Report

end Playbook
