import Playbook.Config.Load
import Playbook.Engine.Run
import Playbook.Engine.Writing

/-!
One operation from its source to its result: the configuration is loaded, the context is built
from what the caller has given, cookies are protected as the settings ask, and the configuration
is run. Nothing is touched before configuration and context are known to be good.
-/

namespace Playbook

/-- What a caller gives of the context of a run. -/
inductive ContextInput where
  | nothing
  | value (v : Value)
  /-- A context of the caller's own. -/
  | context (o : ContextObject)

/-- Why a value is no mapping and no row of pairs either. -/
inductive PairsFault where
  /-- It cannot be gone through, one of its items cannot, or an item starts with no key. -/
  | notPairs
  /-- An item does not have two parts. -/
  | notTwo
  deriving Repr, DecidableEq

/-- Why an operation comes to no result. -/
inductive OperationError where
  | load (e : LoadError)
  | context (issues : List Schema.Issue)
  /-- The context is no mapping. -/
  | contextShape (fault : PairsFault)
  /-- The cookie jar refused the patterns. -/
  | refused (f : Failure)
  | setterNotCallable
  | patternsNotCounted
  /-- Something else is raised before the run, where nothing catches it. -/
  | hindered (f : Failure)
  /-- Times are out of range. -/
  | clock (f : Clock.Fault)
  /-- Something is raised in the run where nothing catches it. -/
  | raised (f : Failure)

/-- One item as a pair of a key and a value. -/
def Value.pair (lookup : Lookup) (item : Value) : Except PairsFault (Value × Value) :=
  match item.iterate? lookup with
  | none => .error .notPairs
  | some [k, v] => if k.isKey lookup then .ok (k, v) else .error .notPairs
  | some _ => .error .notTwo

def pairsOf (lookup : Lookup) : List Value → Except PairsFault Entries
  | [] => .ok []
  | item :: rest =>
    match item.pair lookup with
    | .error f => .error f
    | .ok p => (pairsOf lookup rest).map (p :: ·)

/-- The entries of a mapping, or of whatever yields pairs when it is gone through. -/
def Value.pairs (lookup : Lookup) (v : Value) : Except PairsFault Entries :=
  match v.entries? lookup, v.iterate? lookup with
  | some entries, _ => .ok entries
  | none, none => .error .notPairs
  | none, some items => (pairsOf lookup items).map Entries.ofPairs

/-- What ends a run before its account ends the operation. -/
def OperationError.ofEscape : Escape → OperationError
  | .clock f => .clock f
  | .raised f => .raised f

/-- The fields of a context without the results and the start time of earlier runs. -/
def Context.cleared (fields : Entries) : Entries :=
  (fields.insert (.text "results") (.list [])).insert (.text "start_time") .null

/-- The context that some fields describe, for a run of its own. -/
def freshContext {μ : Type} (store : Store μ) (fields : Entries) : Except OperationError Context :=
  match Context.check 0 store.lookup (.map (Context.cleared fields)) with
  | .pass c => .ok c
  | .fail issues => .error (.context issues)

/-- The context of one run, made of what the caller has given. Of a context of the caller's own the
fields that were set are copied, and checked again. -/
def buildContext {μ : Type} (store : Store μ) (input : ContextInput) :
    Except OperationError Context :=
  match input with
  | .nothing => .ok {}
  | .context o => freshContext store o.entries
  | .value v =>
    match v.pairs store.lookup with
    | .error fault => .error (.contextShape fault)
    | .ok entries => freshContext store entries

/-- Whether a value has a number of items. -/
def Value.isCounted (lookup : Lookup) : Value → Bool
  | .text _ | .bytes _ | .list _ | .tuple _ | .set _ => true
  | v => (v.entries? lookup).isSome

namespace Store

variable {μ : Type}

/-- The first value that counts as true, or else the second. -/
def orElse (s : Store μ) (first second : Value) : Value :=
  if s.isTruthy first then first else second

/-- The cookie jar of a session state, under either of its names. -/
def cookieJar (s : Store μ) (state : Value) : Value :=
  s.orElse (s.field state "cookie_jar") (s.field state "cookieJar")

/-- The setting that holds the patterns of cookies to protect. -/
def cookiePatterns (s : Store μ) (c : Config) : Value :=
  match c.settings.toOption.bind fun settings => settings.get? "autoProtectCookies" with
  | none => .null
  | some patterns => s.snapshot true patterns

/-- Whether a member counts as true. -/
def memberIsTruthy (s : Store μ) : Member μ → Bool
  | .method _ => true
  | .plain v => s.isTruthy v

/-- What a cookie jar takes patterns by, under either of its names, and the name it is found
under. -/
def patternSetter? (s : Store μ) (jar : Value) : Option (String × Member μ) :=
  let found := fun name => (s.presentAttribute? jar name).map fun m => (name, m)
  let second := found "setAutoProtectPatterns"
  match found "set_auto_protect_patterns" with
  | some first => if s.memberIsTruthy first.2 then some first else second
  | none => second

end Store

/-- What is raised before patterns come to a setter: the settings are written out, and patterns, jar
and setter are asked whether they count. -/
def Hazards.unprotected? {κ σ : Type} (hz : Hazards κ σ) (config : Config) (s : Scene κ σ) :
    Option Failure :=
  let patterns := s.store.cookiePatterns config
  let state := s.context.requestResult
  let asked := [s.store.field state "cookie_jar"] ++
    match s.store.presentAttribute? (s.store.cookieJar state) "set_auto_protect_patterns" with
    | some (.plain v) => [v]
    | _ => []
  match hz.unwritten? config s, hz.asking patterns s with
  | some f, _ | none, some f => some f
  | none, none =>
    if s.store.isTruthy patterns then asked.findSome? fun v => hz.asking v s else none

namespace Engine

variable {κ σ : Type}

/-- Hands the patterns to the setter of a jar. An asynchronous setter is called but not awaited,
so that it does nothing. -/
def callSetter (e : Engine κ σ) (jar : Value) (name : String) (setter : Store.Member κ)
    (patterns : Value) (r : Run κ σ) : Except OperationError Unit × Run κ σ :=
  match jar, setter with
  | .handle h, .method routine =>
    if e.collaborators.isAsync routine then (.ok (), r)
    else
      match r.callMethod e.collaborators routine h name [patterns] with
      | (.error f, r) => (.error (.refused f), r)
      | (.ok _, r) => (.ok (), r)
  | _, .plain .callable => (.ok (), r)
  | _, _ => (.error .setterNotCallable, r)

/-- Hands the patterns of the settings to the cookie jar of the session, if there are any and it
takes them. -/
def protectCookies (e : Engine κ σ) (config : Config) (r : Run κ σ) :
    Except OperationError Unit × Run κ σ :=
  let store := r.scene.store
  let patterns := store.cookiePatterns config
  if !store.isTruthy patterns then (.ok (), r)
  else
    let jar := store.cookieJar r.scene.context.requestResult
    match store.patternSetter? jar with
    | none => (.ok (), r)
    | some (name, setter) =>
      match e.callSetter jar name setter patterns r with
      | (.error err, r) => (.error err, r)
      | (.ok _, r) =>
        if patterns.isCounted r.scene.store.lookup then (.ok (), r)
        else (.error .patternsNotCounted, r)

/-- Runs a loaded configuration in the context of the scene, amid hazards if there are any. -/
def runInContext (e : Engine κ σ) (config : Config) (r : Run κ σ) (hz : Hazards κ σ := .never) :
    Except OperationError RunResult × Run κ σ :=
  match hz.unprotected? config r.scene with
  | some f => (.error (.hindered f), r)
  | none =>
    match e.protectCookies config r with
    | (.error err, r) => (.error err, r)
    | (.ok _, r) =>
      let r := r.withContext fun c => { c with startTime := .float r.scene.clock }
      match e.execute config r hz with
      | (.error err, r) => (.error (.ofEscape err), r)
      | (.ok result, r) => (.ok result, r)

/-- Runs a loaded configuration in a context built from what the caller has given. -/
def runConfig (e : Engine κ σ) (config : Config) (input : ContextInput) (r : Run κ σ)
    (hz : Hazards κ σ := .never) : Except OperationError RunResult × Run κ σ :=
  match buildContext r.scene.store input with
  | .error err => (.error err, r)
  | .ok context => e.runInContext config (r.withContext fun _ => context) hz

/-- Loads a configuration and runs it. -/
def executeOperation (e : Engine κ σ) (loader : Loader) (input : ContextInput) (source : Source)
    (r : Run κ σ) (hz : Hazards κ σ := .never) : Except OperationError RunResult × Run κ σ :=
  match loader.loadOperation r.scene.store.lookup source with
  | .error err => (.error (.load err), r)
  | .ok config => e.runConfig config input r hz

end Engine

/-! ### Operations among context objects -/

/-- What a caller names as the context of an operation. -/
inductive ContextArgument where
  | nothing
  | value (v : Value)
  /-- The context object at a place. -/
  | object (place : Nat)

/-- What is read of the context that a caller names. -/
def ContextArgument.read (contexts : List ContextObject) : ContextArgument → ContextInput
  | .nothing => .nothing
  | .value v => .value v
  | .object place =>
    match contexts[place]? with
    | some o => .context o
    | none => .nothing

/-- Where an operation leaves a process: what it comes to, the context objects that there are, and
its run. -/
structure Operated (κ σ : Type) where
  outcome : Except OperationError RunResult
  contexts : List ContextObject
  run : Run κ σ

namespace Engine

variable {κ σ : Type}

/-- Loads a configuration and runs it, among the context objects of a process. The run has a new
object for its context, at a place of its own, and whatever happens to the context of the run
happens to the object at that place. -/
def operate (e : Engine κ σ) (loader : Loader) (argument : ContextArgument) (source : Source)
    (contexts : List ContextObject) (r : Run κ σ) (hz : Hazards κ σ := .never) : Operated κ σ :=
  match loader.loadOperation r.scene.store.lookup source with
  | .error err => ⟨.error (.load err), contexts, r⟩
  | .ok config =>
    match buildContext r.scene.store (argument.read contexts) with
    | .error err => ⟨.error err, contexts, r⟩
    | .ok context =>
      let place := contexts.length
      let contexts := contexts ++ [⟨context, Context.names⟩]
      let (outcome, r) := e.runInContext config (r.withContext fun _ => context) hz
      ⟨outcome, contexts.set place ⟨r.scene.context, Context.names⟩, r⟩

end Engine

end Playbook
