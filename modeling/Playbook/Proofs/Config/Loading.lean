import Playbook.Handlers
import Playbook.Proofs.Config.Interpolation
import Playbook.Proofs.Json.Accounts
import Playbook.Proofs.Json.Standard
import Playbook.Service

/-!
What loading comes to, whatever the surroundings. From a text, an environment and a file comes a
configuration or an error of the configuration family, but for what the reader of texts and the file
system raise on their own, and for mappings without an end. These are faults outside of the family,
and they leave every report on documents as such.
-/

namespace Playbook

open Template

variable {l : Loader} {text path : String} {parts : List String} {kind : Yaml.Misfit}

/-! ### Files -/

theorem Disk.resolve_surroundings {d : Disk} (hpath : path.toList.contains '\x00' = false) :
    d.surroundings.resolve path = .ok (d.resolve path) :=
  if_neg (by simp only [hpath, Bool.false_eq_true, not_false_eq_true])

theorem Disk.isFile_surroundings {d : Disk} (hshort : isTooLong parts = false) :
    d.surroundings.isFile parts = .ok (d.read? parts).isSome :=
  if_neg (by simp only [hshort, Bool.false_eq_true, not_false_eq_true])

theorem Disk.isFile_of_tooLong {d : Disk} (hlong : isTooLong parts = true) :
    d.surroundings.isFile parts = .error (.other ⟨"OSError", "File name too long"⟩) :=
  if_pos hlong

theorem Disk.content_surroundings {d : Disk} {bytes : List UInt8}
    (hread : d.read? parts = some bytes) : d.surroundings.content parts = .ok bytes := by
  simp only [surroundings, hread]

theorem Loader.loadFile_of_missing (hresolve : l.around.resolve path = .ok parts)
    (hmissing : l.around.isFile parts = .ok false) :
    l.loadFile path = .error (.config (.fileNotFound (Disk.pathText parts))) := by
  simp only [loadFile, hresolve, hmissing]

theorem Loader.loadFile_of_there (hresolve : l.around.resolve path = .ok parts)
    (hthere : l.around.isFile parts = .ok true) :
    l.loadFile path = match l.around.content parts with
      | .error detail => .error (.config (.notReadable (Disk.pathText parts) detail))
      | .ok bytes =>
        match Text.utf8Error? bytes with
        | some e => .error (.config (.notUtf8 (Disk.pathText parts) e))
        | none => l.parseYaml ((Text.ofUtf8? bytes).getD "") := by
  simp only [loadFile, hresolve, hthere]
  cases l.around.content parts <;> rfl

/-- A file on a disk that can be read is loaded as the text that it holds. -/
theorem Disk.loadFile_eq_parseYaml {env : Environment} {d : Disk} {bytes : List UInt8}
    (hpath : path.toList.contains '\x00' = false) (hshort : isTooLong (d.resolve path) = false)
    (hread : d.read? (d.resolve path) = some bytes) (hvalid : Text.utf8Error? bytes = none)
    (htext : (Text.ofUtf8? bytes).getD "" = text) :
    Loader.loadFile ⟨env, d.surroundings⟩ path = Loader.parseYaml ⟨env, d.surroundings⟩ text := by
  have hthere : d.surroundings.isFile (d.resolve path) = .ok true := by
    rw [isFile_surroundings hshort, hread]
    rfl
  rw [Loader.loadFile_of_there (resolve_surroundings hpath) hthere, content_surroundings hread]
  simp only [hvalid, htext]

/-! ### Messages -/

theorem append_eq_of_eq_append {whole front back : String} (h : whole = front ++ back)
    (rest : String) : whole ++ rest = front ++ (back ++ rest) := by
  rw [h, String.append_assoc]

/-- What a message starts with is told by its kind alone. -/
theorem ConfigError.message_starts_with_opening (e : ConfigError) :
    ∃ rest, e.message = e.kind.opening ++ rest := by
  have hparse : "YAML parsing error: " = "YAML parsing error" ++ ": " := by decide
  -- Each message is stated as it is written, since unfolding it would spell out all the texts.
  cases e with
  | fileNotFound p =>
    have hstart : "Configuration file not found: " = "Configuration file not" ++ " found: " := by
      decide
    change ∃ rest, "Configuration file not found: " ++ p = "Configuration file not" ++ rest
    exact ⟨_, append_eq_of_eq_append hstart p⟩
  | notReadable p detail =>
    have hstart : "Configuration file not readable: " =
        "Configuration file not" ++ " readable: " := by decide
    change ∃ rest, "Configuration file not readable: " ++ p ++ ": " ++ detail =
      "Configuration file not" ++ rest
    simp only [String.append_assoc]
    exact ⟨_, append_eq_of_eq_append hstart _⟩
  | notUtf8 p error =>
    change ∃ rest, "YAML parsing error: " ++ p ++ " is not valid UTF-8 (" ++ error.message ++ ")" =
      "YAML parsing error" ++ rest
    simp only [String.append_assoc]
    exact ⟨_, append_eq_of_eq_append hparse _⟩
  | malformed problem =>
    change ∃ rest, "YAML parsing error: " ++ problem.message = "YAML parsing error" ++ rest
    exact ⟨_, append_eq_of_eq_append hparse problem.message⟩
  | notMapping => exact ⟨": Configuration must be a valid YAML object", by decide⟩
  | unset reference =>
    change ∃ rest, Template.UnsetVariable.opening ++ ": " ++ reference.name =
      Template.UnsetVariable.opening ++ rest
    exact ⟨_, String.append_assoc⟩
  | invalid issues =>
    have hstart : "Configuration validation failed:\n" =
        "Configuration validation failed" ++ ":\n" := by decide
    change ∃ rest, "Configuration validation failed:\n" ++
      String.intercalate "\n" (issueLines issues) = "Configuration validation failed" ++ rest
    exact ⟨_, append_eq_of_eq_append hstart _⟩

/-! ### Faults -/

namespace Loader

/-- A fault that a text leads to: one that its reader raises, or that it is a mapping without an end
in which no variable is met that is not set. -/
inductive TextFault (l : Loader) (text : String) : Yaml.Misfit → Prop
  | raised {kind : Yaml.Misfit} (read : l.around.read text = .error (.misfit kind)) :
      TextFault l text kind
  | endless {met : List String} (read : l.around.read text = .error (.endless true met))
      (set : ¬ SomeUnset l.environment met) : TextFault l text .endless

/-- A fault that a path leads to: one that the file system raises, or that the file leads to. -/
inductive FileFault (l : Loader) (path : String) : Yaml.Misfit → Prop
  | unresolved {kind : Yaml.Misfit} (resolve : l.around.resolve path = .error kind) :
      FileFault l path kind
  | unreachable {kind : Yaml.Misfit} {parts : List String}
      (resolve : l.around.resolve path = .ok parts) (isFile : l.around.isFile parts = .error kind) :
      FileFault l path kind
  | text {kind : Yaml.Misfit} {parts : List String} {bytes : List UInt8}
      (resolve : l.around.resolve path = .ok parts) (isFile : l.around.isFile parts = .ok true)
      (content : l.around.content parts = .ok bytes) (valid : Text.utf8Error? bytes = none)
      (fault : l.TextFault ((Text.ofUtf8? bytes).getD "") kind) : FileFault l path kind

theorem problemError_eq_fault_iff {p : Yaml.Problem} :
    l.problemError p = .fault kind ↔ p = .misfit kind ∨
      ∃ met, p = .endless true met ∧ ¬ SomeUnset l.environment met ∧ kind = .endless := by
  cases p with
  | misfit found => simp [problemError]
  | endless isMapping met =>
    cases isMapping with
    | false => simp [problemError]
    | true =>
      simp only [problemError_endless, Yaml.Problem.endless.injEq, true_and, reduceCtorEq, false_or]
      simp only [exists_eq_left', not_someUnset_iff]
      cases met.findSome? (failure? l.environment) <;> simp [eq_comm]
  | _ => simp [problemError]

theorem textFault_iff : l.TextFault text kind ↔
    ∃ p, l.around.read text = .error p ∧ l.problemError p = .fault kind := by
  simp only [problemError_eq_fault_iff]
  constructor
  · rintro (⟨hread⟩ | ⟨hread, hset⟩)
    · exact ⟨_, hread, .inl rfl⟩
    · exact ⟨_, hread, .inr ⟨_, rfl, hset, rfl⟩⟩
  · rintro ⟨p, hread, rfl | ⟨met, rfl, hset, rfl⟩⟩
    · exact .raised hread
    · exact .endless hread hset

theorem parseYaml_eq_fault_iff :
    l.parseYaml text = .error (.fault kind) ↔ l.TextFault text kind := by
  rw [textFault_iff, parseYaml]
  cases l.around.read text with
  | error p => simp
  | ok document => cases hcheck : l.checkDocument document <;> simp [hcheck]

theorem loadFile_eq_fault_iff :
    l.loadFile path = .error (.fault kind) ↔ l.FileFault path kind := by
  constructor
  · intro hload
    cases hresolve : l.around.resolve path with
    | error found =>
      obtain rfl : found = kind := by simpa [loadFile, hresolve] using hload
      exact .unresolved hresolve
    | ok parts =>
      cases hfile : l.around.isFile parts with
      | error found =>
        obtain rfl : found = kind := by simpa [loadFile, hresolve, hfile] using hload
        exact .unreachable hresolve hfile
      | ok there =>
        cases there with
        | false => simp [loadFile_of_missing hresolve hfile] at hload
        | true =>
          rw [loadFile_of_there hresolve hfile] at hload
          cases hcontent : l.around.content parts with
          | error detail => simp [hcontent] at hload
          | ok bytes =>
            cases hvalid : Text.utf8Error? bytes with
            | some e => simp [hcontent, hvalid] at hload
            | none =>
              simp only [hcontent, hvalid] at hload
              exact .text hresolve hfile hcontent hvalid (parseYaml_eq_fault_iff.mp hload)
  · rintro (⟨hresolve⟩ | ⟨hresolve, hfile⟩ | ⟨hresolve, hfile, hcontent, hvalid, hfault⟩)
    · simp only [loadFile, hresolve]
    · simp only [loadFile, hresolve, hfile]
    · rw [loadFile_of_there hresolve hfile]
      simp only [hcontent, hvalid]
      exact parseYaml_eq_fault_iff.mpr hfault

end Loader

/-! ### Reports on documents -/

namespace Service

variable {κ : Type} {s : Submission} {body : Body} {fw : Framework κ}

/-- Only text can hold a fault; a configuration that was submitted as an object is just checked. -/
theorem Submission.load_eq_fault_iff :
    s.load l = some (.error (.fault kind)) ↔
      ∃ text, s.yaml = some text ∧ l.TextFault text kind := by
  obtain ⟨yaml, config, commands⟩ := s
  cases yaml with
  | some text => simp [Submission.load, Loader.parseYaml_eq_fault_iff]
  | none =>
    cases config with
    | some entries =>
      cases hcheck : Loader.check .none (.map entries) <;> simp [Submission.load, hcheck]
    | none =>
      cases commands with
      | none => simp [Submission.load]
      | some row =>
        cases hcheck : Loader.checkCommands .none (row.map .map) <;>
          simp [Submission.load, hcheck]

theorem written_ne_misfit (store : Store κ) (v : Value) :
    written fw store v ≠ .error (.misfit kind) := by
  intro h
  rw [written] at h
  split at h <;> cases h

theorem verify_eq_misfit_iff
    (hbody : (bodyValue body fw.read).andThen verifyRequest = .pass s) :
    verify l body fw = .error (.misfit kind) ↔ s.load l = some (.error (.fault kind)) := by
  rw [verify, hbody]
  cases hload : s.load l with
  | none => simp [hload]
  | some result =>
    cases result with
    | ok c => simp [hload, written_ne_misfit]
    | error e => cases e <;> simp [hload, written_ne_misfit]

/-- The answer that calls a configuration invalid. -/
def invalidAnswer (message : String) : Response :=
  ⟨200, .json (.object
    [("valid", .bool false), ("config", .null), ("error", .text message)])⟩

/-- A configuration that was refused is called invalid, if its message can be encoded. -/
theorem verify_of_config_error {limits : Json.Limits} (laws : fw.encoder.Laws limits)
    (hdepth : 1 ≤ limits.depth) {e : ConfigError}
    (hbody : (bodyValue body fw.read).andThen verifyRequest = .pass s)
    (hload : s.load l = some (.error (.config e))) (hmessage : limits.texts e.message = true) :
    verify l body fw = .ok (invalidAnswer e.message) := by
  have hallow : limits.allows (Store.empty : Store κ) 1
      (VerifyResult.toRecord ⟨false, none, some e.message⟩) = true := by
    simp [VerifyResult.toRecord, Json.Limits.allows, Json.Limits.composes, Store.parts, Store.opened,
      Value.parts, plainSlot, Value.ofText?, hmessage]
  obtain ⟨j, hj⟩ := laws.writes_of_allows hallow hdepth
  have hshape : fw.encoder.WritesAs Store.empty
      (VerifyResult.toRecord ⟨false, none, some e.message⟩) (.object
        [("valid", .bool false), ("config", .null), ("error", .text e.message)]) :=
    laws.writesAs_record (.cons ⟨rfl, laws.writesAs_bool false⟩
      (.cons ⟨rfl, laws.writesAs_null⟩ (.cons ⟨rfl, laws.writesAs_text e.message⟩ .nil)))
  rw [verify, hbody]
  simp only [hload, written, hj, hshape j hj]
  rfl

end Service

/-- Loading fails within the family of configuration errors, and each error of the family is told by
what its message starts with. A fault outside of the family is one that the reader of texts or the
file system raises, or comes from a mapping without an end, and from nothing else. Whoever reports
on documents reports every other bad one as invalid, with its message. -/
theorem loading_fails_in_family_but_for_faults {κ : Type} (l : Loader) (text path : String)
    (fw : Service.Framework κ) (limits : Json.Limits) (laws : fw.encoder.Laws limits)
    (hdepth : 1 ≤ limits.depth) :
    (∀ e, l.parseYaml text = .error (.config e) ∨ l.loadFile path = .error (.config e) →
        ∃ rest, e.message = e.kind.opening ++ rest) ∧
      (∀ kind, l.parseYaml text = .error (.fault kind) ↔ l.TextFault text kind) ∧
      (∀ kind, l.loadFile path = .error (.fault kind) ↔ l.FileFault path kind) ∧
      (∀ kind, verifyFile l path = .error kind ↔ l.FileFault path kind) ∧
      (∀ e, l.loadFile path = .error (.config e) →
        verifyFile l path = .ok ⟨false, none, some e.message⟩) ∧
      ∀ body submission,
        (Service.bodyValue body fw.read).andThen Service.verifyRequest = .pass submission →
          (∀ kind, Service.verify l body fw = .error (.misfit kind) ↔
            ∃ yaml, submission.yaml = some yaml ∧ l.TextFault yaml kind) ∧
          ∀ e, submission.load l = some (.error (.config e)) → limits.texts e.message = true →
            Service.verify l body fw = .ok (Service.invalidAnswer e.message) := by
  refine ⟨fun e _ => e.message_starts_with_opening, fun kind => Loader.parseYaml_eq_fault_iff,
    fun kind => Loader.loadFile_eq_fault_iff, fun kind => ?_, ?_, ?_⟩
  · rw [verifyFile, ← Loader.loadFile_eq_fault_iff]
    cases l.loadFile path with
    | ok c => simp
    | error e => cases e <;> simp
  · intro e hload
    rw [verifyFile, hload]
  · intro body submission hbody
    refine ⟨fun kind => ?_, fun e => Service.verify_of_config_error laws hdepth hbody⟩
    rw [Service.verify_eq_misfit_iff hbody, Service.Submission.load_eq_fault_iff]

/-- A day that no calendar has is a scalar that looks like a date and is none. -/
def dateOutsideCalendar : String := "version: 2020-13-01"

/-- A mapping that holds itself behind a placeholder. -/
def roundDocument : String := "version: $\x7bgetenv:A\x7d\nsettings: &s\n  more: *s\n"

/-- What something fails with, which can be computed of it and compared. -/
def problem? {ε α : Type} : Except ε α → Option ε
  | .ok _ => none
  | .error p => some p

theorem problem?_eq_some_iff {ε α : Type} {x : Except ε α} {p : ε} :
    problem? x = some p ↔ x = .error p := by
  cases x <;> simp [problem?]

theorem readDocument_dateOutsideCalendar :
    Yaml.readDocument dateOutsideCalendar = .error (.misfit .value) :=
  problem?_eq_some_iff.mp (by decide +kernel)

theorem readDocument_roundDocument :
    Yaml.readDocument roundDocument = .error (.endless true ["$\x7bgetenv:A\x7d"]) :=
  problem?_eq_some_iff.mp (by decide +kernel)

/-- Such a text is neither read nor refused: what it leads to is no error of the family. -/
theorem date_outside_calendar_escapes :
    ¬ ∀ (l : Loader) (text : String), (∃ c, l.parseYaml text = .ok c) ∨
      ∃ e, l.parseYaml text = .error (.config e) := by
  intro hall
  have hfault : (Loader.mk [] .empty).parseYaml dateOutsideCalendar = .error (.fault .value) :=
    Loader.parseYaml_eq_fault_iff.mpr (.raised readDocument_dateOutsideCalendar)
  rcases hall ⟨[], .empty⟩ dateOutsideCalendar with ⟨c, hc⟩ | ⟨e, he⟩
  · rw [hfault] at hc
    cases hc
  · rw [hfault] at he
    cases he

/-- A file that is missing, a path that is too long, a date that is none, and a document without an
end, where the variable in it is set and where it is not. -/
theorem missing_file_and_bad_date_are_told_apart :
    let l : Loader := ⟨[], .empty⟩
    let l' : Loader := ⟨[("A", "1")], .empty⟩
    let body : Service.Body := .value (.ofFields [("yaml", .text dateOutsideCalendar)])
    let long := String.ofList (List.replicate 300 'a')
    (Service.bodyValue body).andThen Service.verifyRequest =
        .pass ⟨some dateOutsideCalendar, none, none⟩ ∧
      Service.verify (κ := Unit) l body = .error (.misfit .value) ∧
      l'.parseYaml roundDocument = .error (.fault .endless) ∧
      (∀ kind, l.parseYaml roundDocument ≠ .error (.fault kind)) ∧
      (∃ f, verifyFile l long = .error (.other f)) ∧
      ∃ e, l.loadFile "a.yaml" = .error (.config e) ∧ e.kind = .fileNotFound ∧
        (∃ rest, e.message = "Configuration file not" ++ rest) ∧
        verifyFile l "a.yaml" = .ok ⟨false, none, some e.message⟩ := by
  intro l l' body long
  have hlaws : (Json.Encoder.strict : Json.Encoder Unit).Laws ⟨9, 18, fun _ => true⟩ :=
    Json.Encoder.standard_laws false _
  have hbody : (Service.bodyValue body).andThen Service.verifyRequest =
      .pass ⟨some dateOutsideCalendar, none, none⟩ := rfl
  have hmissing : l.loadFile "a.yaml" =
      .error (.config (.fileNotFound (Disk.pathText (Disk.empty.resolve "a.yaml")))) :=
    Loader.loadFile_of_missing (Disk.resolve_surroundings (by decide))
      (Disk.isFile_surroundings (by decide +kernel))
  obtain ⟨hopens, _, _, _, hreported, hservice⟩ :=
    loading_fails_in_family_but_for_faults l dateOutsideCalendar "a.yaml" {} _ hlaws (by decide)
  obtain ⟨_, hround, _⟩ :=
    loading_fails_in_family_but_for_faults l' roundDocument "a.yaml" {} _ hlaws (by decide)
  obtain ⟨_, hunset, _, hlong, _⟩ :=
    loading_fails_in_family_but_for_faults l roundDocument long {} _ hlaws (by decide)
  have hescapes := ((hservice body _ hbody).1 .value).mpr
    ⟨_, rfl, .raised readDocument_dateOutsideCalendar⟩
  refine ⟨hbody, hescapes, (hround .endless).mpr (.endless readDocument_roundDocument ?_), ?_, ?_,
    _, hmissing, rfl, hopens _ (.inr hmissing), hreported _ hmissing⟩
  · rw [not_someUnset_iff]
    decide +kernel
  · intro kind hfault
    rcases (hunset kind).mp hfault with ⟨hraised⟩ | ⟨hread, hset⟩
    · cases hraised.symm.trans readDocument_roundDocument
    · obtain ⟨_, rfl⟩ := Yaml.Problem.endless.inj
        (Except.error.inj (hread.symm.trans readDocument_roundDocument))
      rw [not_someUnset_iff] at hset
      revert hset
      decide +kernel
  · have htoo : Disk.isTooLong (Disk.empty.resolve long) = true := by decide +kernel
    have hpath : long.toList.contains '\x00' = false := by decide +kernel
    exact ⟨_, (hlong _).mpr (.unreachable (Disk.resolve_surroundings hpath)
      (Disk.isFile_of_tooLong htoo))⟩

end Playbook
