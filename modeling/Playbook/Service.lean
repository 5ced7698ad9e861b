import Playbook.Engine.Check
import Playbook.Handlers
import Playbook.Json.Encoder
import Playbook.Json.Read

/-!
The service over HTTP: what is registered, checking configurations, and running them on the remote
backend. Command failures are part of an answer; only errors of configurations and of requests are
errors of the service. How bodies are read and answers are written is up to the framework that the
service stands on.
-/

namespace Playbook.Service

/-- The content of a request. -/
inductive Body where
  | none
  | text (s : String)
  | value (v : Value)

structure Request where
  method : String
  path : String
  body : Body

/-- The content of an answer. -/
inductive Content where
  | json (j : Json)
  /-- What is wrong with the content of a request. -/
  | issues (issues : List Schema.Issue)

structure Response where
  status : Nat
  content : Content

/-- The framework: how the text of a body is read, which may fail at a position, and how answers are
written. -/
structure Framework (κ : Type) where
  read : String → Except Nat Json := Json.read
  encoder : Json.Encoder κ := .strict

/-- What ends a request without an answer. -/
inductive Fault where
  /-- A scalar of the submitted text does not fit its type. -/
  | misfit (kind : Yaml.Misfit)
  /-- The answer holds a value that has no document. -/
  | document (f : Json.Fault)
  deriving Repr, DecidableEq

/-- The routes of the service. -/
inductive Route where
  | health
  | commands
  | verify
  | execute
  deriving Repr, DecidableEq

def Route.path : Route → String
  | .health => "/"
  | .commands => "/api/v1/commands"
  | .verify => "/api/v1/verify"
  | .execute => "/api/v1/execute"

def Route.method : Route → String
  | .health | .commands => "GET"
  | .verify | .execute => "POST"

def routes : List Route := [.health, .commands, .verify, .execute]

def routeOf? (path : String) : Option Route := routes.find? fun r => r.path == path

/-- The path without a query and without slashes at its end. -/
def normalPath (path : String) : String :=
  let cs := path.toList.takeWhile fun c => c != '?' && c != '#'
  let kept := (cs.reverse.dropWhile (· == '/')).reverse
  if kept.isEmpty then "/" else String.ofList kept

def detail (status : Nat) (j : Json) : Response := ⟨status, .json (.object [("detail", j)])⟩

def notFound : Response := detail 404 (.text "Not Found")

def methodNotAllowed : Response := detail 405 (.text "Method Not Allowed")

def loaderMissing : Response := detail 503 (.text "Config loader not available")

def sourceMissing : Response := detail 422 (.text "Provide one of: yaml, config, commands")

/-- A configuration error as an answer. -/
def configRefused (e : ConfigError) : Response :=
  detail 400 (.object [("kind", .text e.kind.name), ("message", .text e.message)])

open Schema Schema.Check

variable {κ σ : Type}

/-- The content of a request as a value, or what is wrong with it. -/
def bodyValue (body : Body) (read : String → Except Nat Json := Json.read) : Check Value :=
  match body with
  | .none | .text "" => (reject .missing).under (.key "body")
  | .text s =>
    match read s with
    | .ok j => .pass j.toValue
    | .error position => .fail [⟨[.key "body", .index position], .malformedJson⟩]
  | .value v => .pass v

/-- Where a configuration is given in a request: as YAML before all else, then as an object, then
as a bare row of commands. -/
structure Submission where
  yaml : Option String
  config : Option Entries
  commands : Option (List Entries)

/-- What a request to run a configuration sets in place of its settings. -/
structure Overrides where
  baseUrl : Option String
  timeout : Option Int
  continueOnError : Option Bool

/-- The fields of a request. -/
def bodyEntries (v : Value) : Check Entries :=
  match v.entries? .none with
  | some entries => .pass entries
  | none => reject .notObject

def verifyRequest (v : Value) : Check Submission :=
  ((bodyEntries v).andThen fun entries =>
    (fun yaml config => Submission.mk yaml config none)
      <$> withDefault entries ["yaml"] (optional lenientText) none
      <*> withDefault entries ["config"] (optional (mappingOf .none)) none).under (.key "body")

def executeRequest (v : Value) : Check (Submission × Overrides) :=
  ((bodyEntries v).andThen fun entries =>
    (fun yaml config commands baseUrl timeout goOn =>
        (Submission.mk yaml config commands, Overrides.mk baseUrl timeout goOn))
      <$> withDefault entries ["yaml"] (optional lenientText) none
      <*> withDefault entries ["config"] (optional (mappingOf .none)) none
      <*> withDefault entries ["commands"] (optional (listOf (mappingOf .none))) none
      <*> withDefault entries ["base_url"] (optional lenientText) none
      <*> withDefault entries ["timeout"] (optional lenientInt) none
      <*> withDefault entries ["continue_on_error"] (optional lenientBool) none).under (.key "body")

/-- The submitted configuration, loaded; nothing when none was submitted. -/
def Submission.load (s : Submission) (loader : Loader) : Option (Except LoadError Config) :=
  let checked := fun (r : Except ConfigError Config) => match r with
    | .ok c => Except.ok c
    | .error e => .error (.config e)
  match s.yaml, s.config, s.commands with
  | some text, _, _ => some (loader.parseYaml text)
  | none, some entries, _ => some (checked (Loader.check .none (.map entries)))
  | none, none, some commands =>
    some (checked (Loader.checkCommands .none (commands.map .map)))
  | none, none, none => none

/-- The context that a submitted configuration is run in. -/
def Overrides.context (o : Overrides) : Value :=
  .ofFields
    ([("backend", .text Backend.remote.name)] ++
      (o.baseUrl.map fun s => ("base_url", Value.text s)).toList ++
      (o.timeout.map fun n => ("timeout", Value.int n)).toList ++
      (o.continueOnError.map fun b => ("continue_on_error", Value.bool b)).toList)

/-- A value as an answer, if it can be written. -/
def written (fw : Framework κ) (store : Store κ) (v : Value) : Except Fault Response :=
  match fw.encoder.write store v with
  | .ok j => .ok ⟨200, .json j⟩
  | .error f => .error (.document f)

/-- Checks a submitted configuration. -/
def verify (loader : Loader) (body : Body) (fw : Framework κ := {}) : Except Fault Response :=
  match (bodyValue body fw.read).andThen verifyRequest with
  | .fail issues => .ok ⟨422, .issues issues⟩
  | .pass submission =>
    match submission.load loader with
    | none => .ok sourceMissing
    | some (.ok c) => written fw .empty (VerifyResult.toRecord ⟨true, some c, none⟩)
    | some (.error (.config e)) =>
      written fw .empty (VerifyResult.toRecord ⟨false, none, some e.message⟩)
    | some (.error (.fault kind)) => .error (.misfit kind)

/-- What an operation that came to no result says. -/
def operationMessage : OperationError → String
  | .clock f => f.message
  | .refused f | .hindered f | .raised f => f.text
  | _ => ""

/-- Runs a submitted configuration. The account of the run is the answer, if it can be written. -/
def execute (e : Engine κ σ) (loader : Loader) (body : Body) (r : Run κ σ)
    (fw : Framework κ := {}) (hz : Hazards κ σ := .never) : Except Fault Response × Run κ σ :=
  match (bodyValue body fw.read).andThen executeRequest with
  | .fail issues => (.ok ⟨422, .issues issues⟩, r)
  | .pass (submission, overrides) =>
    match submission.load loader with
    | none => (.ok sourceMissing, r)
    | some (.error (.config err)) => (.ok (configRefused err), r)
    | some (.error (.fault kind)) => (.error (.misfit kind), r)
    | some (.ok config) =>
      match e.runConfig config (.value overrides.context) r hz with
      | (.error err, r) => (.ok (detail 500 (.text (operationMessage err))), r)
      | (.ok result, r) => (written fw r.scene.store (result.toRecord none), r)

/-- The state of the service. -/
def health (registered : Nat) : Json :=
  .object
    [("service", .text "browserop API"), ("version", .text "1.0.0"), ("status", .text "running"),
      ("registered_commands", .ofNat registered)]

/-- Answers one request. Without a loader the service has not been started. -/
def answer (e : Engine κ σ) (loader : Option Loader) (request : Request) (r : Run κ σ)
    (fw : Framework κ := {}) (hz : Hazards κ σ := .never) : Except Fault Response × Run κ σ :=
  match routeOf? (normalPath request.path) with
  | none => (.ok notFound, r)
  | some route =>
    if request.method ≠ route.method then (.ok methodNotAllowed, r)
    else
      let names := r.scene.registries.default.names
      match route, loader with
      | .health, _ => (.ok ⟨200, .json (health names.length)⟩, r)
      | .commands, _ =>
        (.ok ⟨200, .json (.object [("commands", .list (names.map .text))])⟩, r)
      | .verify, none =>
        match (bodyValue request.body fw.read).andThen verifyRequest with
        | .fail issues => (.ok ⟨422, .issues issues⟩, r)
        | .pass _ => (.ok loaderMissing, r)
      | .execute, none =>
        match (bodyValue request.body fw.read).andThen executeRequest with
        | .fail issues => (.ok ⟨422, .issues issues⟩, r)
        | .pass _ => (.ok loaderMissing, r)
      | .verify, some loader => (verify loader request.body fw, r)
      | .execute, some loader => execute e loader request.body r fw hz

end Playbook.Service
