import Playbook.Value

/-!
Placeholders for environment variables. A placeholder is written `${getenv:NAME}`, where the name
has upper-case letters, digits and underscores and does not start with a digit. Text is split once
into literal characters and placeholders, so a substituted value is never scanned again.
-/

namespace Playbook

/-- The variables that are set, by name. -/
abbrev Environment := List (String × String)

mutual

/-- The texts of a value that stand at value positions, depth first. -/
def Value.texts : Value → List String
  | .text s => [s]
  | .list items | .tuple items => itemTexts items
  | .map entries | .frozenMap entries => entryTexts entries
  | _ => []

def itemTexts : List Value → List String
  | [] => []
  | v :: rest => v.texts ++ itemTexts rest

def entryTexts : List (Value × Value) → List String
  | [] => []
  | (_, v) :: rest => v.texts ++ entryTexts rest

end

namespace Template

/-- One piece of a template. -/
inductive Piece where
  | literal (c : Char)
  | reference (name : String)
  deriving Repr, DecidableEq

/-- What a placeholder starts with. -/
def opening : List Char := ['$', '\x7b', 'g', 'e', 't', 'e', 'n', 'v', ':']

/-- What a placeholder ends with. -/
def closing : Char := '\x7d'

/-- A character that a variable name may start with. -/
def isNameStart (c : Char) : Bool := ('A' ≤ c && c ≤ 'Z') || c == '_'

/-- A character that a variable name may go on with. -/
def isNameChar (c : Char) : Bool := isNameStart c || ('0' ≤ c && c ≤ '9')

/-- What follows a given beginning. -/
def after? : List Char → List Char → Option (List Char)
  | [], cs => some cs
  | _ :: _, [] => none
  | p :: ps, c :: cs => if p = c then after? ps cs else none

/-- The name of the placeholder that text begins with, and what follows the placeholder. -/
def placeholder? (cs : List Char) : Option (List Char × List Char) :=
  match after? opening cs with
  | none => none
  | some body =>
    let name := body.takeWhile isNameChar
    match name, body.dropWhile isNameChar with
    | first :: _, last :: rest =>
      if isNameStart first ∧ last = closing then some (name, rest) else none
    | _, _ => none

theorem length_of_after? {start cs rest : List Char} (h : after? start cs = some rest) :
    cs.length = start.length + rest.length := by
  induction start generalizing cs with
  | nil => simp_all [after?]
  | cons p ps ih =>
    cases cs with
    | nil => simp [after?] at h
    | cons c cs =>
      simp only [after?] at h
      split at h
      · simp [ih h]; omega
      · cases h

theorem length_of_placeholder? {cs name rest : List Char}
    (h : placeholder? cs = some (name, rest)) : rest.length < cs.length := by
  unfold placeholder? at h
  split at h
  · cases h
  · rename_i body hbody
    have hlen := length_of_after? hbody
    have hdrop : (body.dropWhile isNameChar).length ≤ body.length :=
      (List.dropWhile_suffix _).length_le
    simp only at h
    split at h
    · rename_i first _ last more _ hmore
      split at h
      · cases h
        rw [hmore] at hdrop
        simp at hdrop
        omega
      · cases h
    · cases h

/-- The pieces of a text, from left to right. -/
def split (cs : List Char) : List Piece :=
  match _h : placeholder? cs with
  | some (name, rest) => .reference (String.ofList name) :: split rest
  | none =>
    match cs with
    | [] => []
    | c :: rest => .literal c :: split rest
termination_by cs.length
decreasing_by
  · exact length_of_placeholder? _h
  · simp

/-- A placeholder named a variable that is not set. -/
structure UnsetVariable where
  name : String
  deriving Repr, DecidableEq

/-- What a message about an unset variable starts with. -/
def UnsetVariable.opening : String := "Environment variable not found"

def UnsetVariable.message (e : UnsetVariable) : String := UnsetVariable.opening ++ ": " ++ e.name

/-- The value of a variable. -/
def valueOf? (env : Environment) (name : String) : Option String := env.lookup name

/-- Puts the values of the variables in place; the first variable that is not set fails the whole
text. -/
def fill (env : Environment) : List Piece → Except UnsetVariable (List Char)
  | [] => .ok []
  | .literal c :: rest => (fill env rest).map (c :: ·)
  | .reference name :: rest =>
    match valueOf? env name with
    | none => .error ⟨name⟩
    | some value => (fill env rest).map (value.toList ++ ·)

/-- A text with its placeholders replaced. -/
def expand (env : Environment) (s : String) : Except UnsetVariable String :=
  (fill env (split s.toList)).map String.ofList

mutual

/-- A value with the placeholders of every text replaced that is reached through lists, tuples and
the values of maps. Tuples become lists and read-only maps plain ones; keys stay as they are. -/
def expandValue (env : Environment) : Value → Except UnsetVariable Value
  | .text s => (expand env s).map .text
  | .list items => (expandAll env items).map .list
  | .tuple items => (expandAll env items).map .list
  | .map entries => (expandEntries env entries).map .map
  | .frozenMap entries => (expandEntries env entries).map .map
  | v => .ok v

def expandAll (env : Environment) : List Value → Except UnsetVariable (List Value)
  | [] => .ok []
  | v :: rest =>
    match expandValue env v with
    | .error e => .error e
    | .ok w => (expandAll env rest).map (w :: ·)

def expandEntries (env : Environment) : List (Value × Value) → Except UnsetVariable Entries
  | [] => .ok []
  | (k, v) :: rest =>
    match expandValue env v with
    | .error e => .error e
    | .ok w => (expandEntries env rest).map ((k, w) :: ·)

end

/-- A value that is text itself, expanded; any other value as it is. -/
def expandText (env : Environment) : Value → Except UnsetVariable Value
  | .text s => (expand env s).map .text
  | v => .ok v

end Template

end Playbook
