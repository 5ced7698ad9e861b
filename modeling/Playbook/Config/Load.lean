import Playbook.Config.Check
import Playbook.Config.Error
import Playbook.Yaml.Document

/-!
Obtaining configurations. Text is parsed, then its placeholders are replaced, then the document is
checked; values in memory are only checked. How text is read and what files there are is up to the
surroundings of a loader; in the plainest ones a few files are known.
-/

namespace Playbook

/-- What loading relies on: a reader of YAML text, and a file system, which may raise what it
likes. -/
structure Surroundings where
  /-- What a text is read as. -/
  read : String → Except Yaml.Problem Value := Yaml.readDocument
  /-- The parts of the absolute path that a path stands for. -/
  resolve : String → Except Yaml.Misfit (List String)
  /-- Whether there is a file at a path. -/
  isFile : List String → Except Yaml.Misfit Bool
  /-- The content of a file, or what is said when it cannot be read. -/
  content : List String → Except String (List UInt8)

/-- The files that can be loaded, by their absolute path, and the directory that relative paths
start from. -/
structure Disk where
  directory : List String := []
  files : List (List String × List UInt8) := []

namespace Disk

def empty : Disk := ⟨[], []⟩

/-- Follows the parts of a path, where `..` leaves a directory. -/
def follow (start : List String) (parts : List String) : List String :=
  parts.foldl (fun here part =>
    if part = "" ∨ part = "." then here
    else if part = ".." then here.dropLast
    else here ++ [part]) start

/-- What stands between the slashes of a path. -/
def split : List Char → List (List Char)
  | [] => [[]]
  | c :: rest =>
    if c = '/' then [] :: split rest
    else match split rest with
      | [] => [[c]]
      | part :: others => (c :: part) :: others

/-- The parts of the absolute path that a path stands for. -/
def resolve (d : Disk) (path : String) : List String :=
  let start := if path.toList.head? = some '/' then [] else d.directory
  follow start ((split path.toList).map String.ofList)

/-- An absolute path as text. -/
def pathText (parts : List String) : String := "/" ++ String.intercalate "/" parts

def read? (d : Disk) (parts : List String) : Option (List UInt8) := d.files.lookup parts

/-- Whether a path, or a part of it, has more bytes than the system takes. -/
def isTooLong (parts : List String) : Bool :=
  4096 ≤ (pathText parts).utf8ByteSize || parts.any fun part => 255 < part.utf8ByteSize

/-- A disk as the file system of a loader. No path holds a null character. -/
def surroundings (d : Disk) : Surroundings where
  resolve path := if path.toList.contains '\x00' then .error .value else .ok (d.resolve path)
  isFile parts :=
    if isTooLong parts then .error (.other ⟨"OSError", "File name too long"⟩)
    else .ok (d.read? parts).isSome
  content parts :=
    match d.read? parts with
    | some bytes => .ok bytes
    | none => .error "No such file or directory"

end Disk

/-- Surroundings without any file. -/
def Surroundings.empty : Surroundings := Disk.empty.surroundings

/-- What a loader draws on besides its input. -/
structure Loader where
  environment : Environment
  around : Surroundings

namespace Loader

/-- A problem with YAML text as an error of loading. A mapping that holds itself is gone through for
placeholders, until one is not set or there is no end of it. -/
def problemError (l : Loader) : Yaml.Problem → LoadError
  | .misfit kind => .fault kind
  | .endless true met =>
    match Template.expandValue l.environment (.list (met.map .text)) with
    | .error e => .config (.unset e)
    | .ok _ => .fault .endless
  | .endless false _ => .config .notMapping
  | p => .config (.malformed p)

/-- A value in memory, checked. -/
def check (lookup : Lookup) (v : Value) (texts : Schema.Texts := {}) : Except ConfigError Config :=
  match Config.check lookup v texts with
  | .pass c => .ok c
  | .fail issues => .error (.invalid issues)

/-- The document around a bare row of commands. -/
def commandsDocument (commands : List Value) : Value :=
  .map [(.text "version", .text "1"), (.text "commands", .list commands)]

/-- A bare row of commands, checked. -/
def checkCommands (lookup : Lookup) (commands : List Value) : Except ConfigError Config :=
  check lookup (commandsDocument commands)

/-- A parsed document with its placeholders replaced, checked. -/
def checkDocument (l : Loader) (document : Value) : Except ConfigError Config :=
  match document with
  | .map entries =>
    match Template.expandValue l.environment (.map entries) with
    | .error e => .error (.unset e)
    | .ok v => check .none v
  | _ => .error .notMapping

/-- A configuration written in YAML. -/
def parseYaml (l : Loader) (text : String) : Except LoadError Config :=
  match l.around.read text with
  | .error p => .error (l.problemError p)
  | .ok document =>
    match l.checkDocument document with
    | .error e => .error (.config e)
    | .ok c => .ok c

/-- A configuration in a file. -/
def loadFile (l : Loader) (path : String) : Except LoadError Config :=
  match l.around.resolve path with
  | .error kind => .error (.fault kind)
  | .ok parts =>
    let shown := Disk.pathText parts
    match l.around.isFile parts, l.around.content parts with
    | .error kind, _ => .error (.fault kind)
    | .ok false, _ => .error (.config (.fileNotFound shown))
    | .ok true, .error detail => .error (.config (.notReadable shown detail))
    | .ok true, .ok bytes =>
      match Text.utf8Error? bytes with
      | some e => .error (.config (.notUtf8 shown e))
      | none => l.parseYaml ((Text.ofUtf8? bytes).getD "")

end Loader

/-- Where a configuration comes from. -/
inductive Source where
  | path (p : String)
  | value (v : Value)

namespace Loader

/-- A configuration from a file, or from a value in memory. Text names a file. -/
def load (l : Loader) (lookup : Lookup) : Source → Except LoadError Config
  | .path p | .value (.text p) => l.loadFile p
  | .value v =>
    match check lookup v with
    | .error e => .error (.config e)
    | .ok c => .ok c

/-- A configuration from any source; a list is a bare row of commands. -/
def loadOperation (l : Loader) (lookup : Lookup) : Source → Except LoadError Config
  | .value (.list commands) =>
    match checkCommands lookup commands with
    | .error e => .error (.config e)
    | .ok c => .ok c
  | source => l.load lookup source

end Loader

/-- The items that a value yields when it is gone through: those of a list, the keys of a mapping,
the characters of a text; none when it cannot be gone through. -/
def Value.iterate? (lookup : Lookup) : Value → Option (List Value)
  | .list items | .tuple items | .set items => some items
  | .text s => some (s.toList.map fun c => .text (String.singleton c))
  | .bytes bs => some (bs.map fun b => .int b.toNat)
  | .record _ slots => some (slots.map fun (s, v) => .tuple [.text s.name, v])
  | v => (v.entries? lookup).map Entries.keys

end Playbook
