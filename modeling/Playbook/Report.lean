import Playbook.Handlers
import Playbook.Json.Encoder

/-!
Reports on checked and tried configurations, as text to read and as documents.
-/

namespace Playbook.Report

/-- Names with the number of their occurrences, in the order of their first ones. -/
def tally (names : List String) : List (String × Nat) :=
  names.foldl count []
where
  count (counts : List (String × Nat)) (name : String) : List (String × Nat) :=
    match counts with
    | [] => [(name, 1)]
    | (n, k) :: rest => if n = name then (n, k + 1) :: rest else (n, k) :: count rest name

/-- An error that may be missing. -/
def errorText (e : Option String) : String := e.getD "None"

/-- The names of the commands of a configuration. -/
def commandNames (c : Config) : List String := c.commands.map Command.name

/-- The document on a checked configuration. -/
def verifyDocument (r : VerifyResult) : Json :=
  match r.valid, r.config with
  | true, some c =>
    .object
      [("valid", .bool true),
        ("config", .object
          [("name", .ofText? c.name.toOption), ("version", .text c.version),
            ("totalCommands", .ofNat c.commands.length),
            ("commandTypes", .list ((commandNames c).map .text))])]
  | _, _ => .object [("valid", .bool false), ("error", .ofText? r.error)]

/-- The first lines on a valid configuration. -/
def verifyHead (c : Config) : List String :=
  let name := match c.name.toOption with
    | some n => if n = "" then [] else ["  Name: " ++ n]
    | none => []
  ["✓ Configuration is valid", "  File: (validated)"] ++ name ++ ["  Version: " ++ c.version]

/-- The line on the commands of a name. -/
def breakdownLine (entry : String × Nat) : String :=
  "  - " ++ entry.1 ++ ": " ++ toString entry.2

/-- The lines on a valid configuration. -/
def verifyLines (c : Config) : List String :=
  verifyHead c ++ ["  Commands: " ++ toString c.commands.length, "\nCommand breakdown:"] ++
    (tally (commandNames c)).map breakdownLine

/-- The text on a checked configuration. -/
def verifyText (r : VerifyResult) : String :=
  match r.valid, r.config with
  | true, some c => String.intercalate "\n" (verifyLines c)
  | _, _ => "✗ Configuration is invalid\n\nError: " ++ errorText r.error

variable {μ : Type}

/-- What a step did: the description in its payload, or else the name of its command. -/
def stepDescription (store : Store μ) (r : CommandResult) : String :=
  (Store.saysText? (store.field r.data "description")).getD r.command

/-- The message of a failed step. -/
def failureText (r : CommandResult) : String :=
  (r.error.map CommandError.message).getD "unknown error"

/-- The lines on a failed step. -/
def failedLines (store : Store μ) (r : CommandResult) : List String :=
  ["   [Step " ++ toString (r.index + 1) ++ "] " ++ stepDescription store r,
    "      Error: " ++ failureText r]

/-- The lines on any step. -/
def detailLines (store : Store μ) (r : CommandResult) : List String :=
  let mark := if r.success then "✓" else "✗"
  let error := match r.success, r.error with
    | false, some e => ["      Error: " ++ e.message]
    | _, _ => []
  ["   " ++ mark ++ " [" ++ toString (r.index + 1) ++ "] " ++ r.command ++ ": " ++
      stepDescription store r,
    "      Time: " ++ toString r.duration ++ "ms"] ++ error

/-- A ruler across the page. -/
def ruler : String := String.ofList (List.replicate 60 '=')

/-- The lines on a run. -/
def runLines (store : Store μ) (verbose : Bool) (r : RunResult) : List String :=
  let failed := if r.success then [] else
    "\n❌ Failed steps:" ::
      (r.results.filter fun s => !s.success).flatMap (failedLines store)
  let details := if verbose then
      [ruler, "", "📊 Step Details:"] ++ r.results.flatMap (detailLines store) ++ [""]
    else []
  (if verbose then ["", ruler] else []) ++
    [if r.success then "✅ Test PASSED" else "❌ Test FAILED",
      "   Steps: " ++ toString r.successCount ++ "/" ++ toString r.totalCommands ++ " succeeded",
      "   Duration: " ++ toString r.duration ++ "ms"] ++ failed ++ details

/-- The text on a tried configuration. -/
def testText (store : Store μ) (verbose : Bool) (r : TestResult) : String :=
  match r.result with
  | none => "Error: " ++ errorText r.error
  | some run => String.intercalate "\n" (runLines store verbose run)

/-- The document on a tried configuration; a run goes by an identifier. As a rule opaque objects
show as their text. -/
def testDocument (store : Store μ) (identifier : String) (r : TestResult)
    (encoder : Json.Encoder μ := .showing) : Except Json.Fault Json :=
  match r.result with
  | none => .ok (.object [("success", .bool false), ("error", .ofText? r.error)])
  | some run => encoder.write store (run.toRecord (some identifier))

end Playbook.Report
