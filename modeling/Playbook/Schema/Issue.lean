import Playbook.Value

/-!
What a schema finds wrong with a value: where, and by which rule. A check gathers the issues of
all its parts, so that one pass reports every violation in the order of the declared fields.
-/

namespace Playbook.Schema

/-- One step from a value into a part of it. -/
inductive Step where
  | key (name : String)
  | index (i : Nat)
  deriving Repr, DecidableEq

def Step.text : Step → String
  | .key name => name
  | .index i => toString i

abbrev Path := List Step

/-- A path as its steps joined by points. -/
def Path.text (p : Path) : String := String.intercalate "." (p.map Step.text)

/-- The rules that values are held to. -/
inductive Cause where
  | missing
  | undeclared
  | keyNotText
  | notText
  | notUtf8
  | notInteger
  | unreadableInteger
  | fractionalInteger
  | nonFiniteInteger
  | oversizedInteger
  | notBoolean
  | unreadableBoolean
  | notNumber
  | unreadableNumber
  | notList
  | notMapping
  /-- Neither a mapping nor an instance of the named record. -/
  | notRecord (type : String)
  /-- Neither a mapping nor an object that the fields could be read from. -/
  | notObject
  | notCallable
  | belowMinimum (minimum : Int)
  | notAmong (choices : List String)
  | timeoutNotPositive
  | badBaseUrl
  | emptyCommand
  | emptyVersion
  | noCommands
  /-- A duration that is not a number cannot be rounded. -/
  | notRoundable
  /-- Neither can an infinite one; unlike other violations it ends the check at once. -/
  | infiniteDuration
  | malformedJson
  deriving Repr, DecidableEq

/-- Choices in quotes, the last one behind `or`. -/
def choicesText : List String → String
  | [] => ""
  | [a] => "'" ++ a ++ "'"
  | [a, b] => "'" ++ a ++ "' or '" ++ b ++ "'"
  | a :: rest => "'" ++ a ++ "', " ++ choicesText rest

def Cause.message : Cause → String
  | .missing => "Field required"
  | .undeclared => "Extra inputs are not permitted"
  | .keyNotText => "Keys should be strings"
  | .notText => "Input should be a valid string"
  | .notUtf8 => "Input should be a valid string, unable to parse raw data as a unicode string"
  | .notInteger => "Input should be a valid integer"
  | .unreadableInteger => "Input should be a valid integer, unable to parse string as an integer"
  | .fractionalInteger => "Input should be a valid integer, got a number with a fractional part"
  | .nonFiniteInteger => "Input should be a finite number"
  | .oversizedInteger => "Unable to parse input string as an integer, exceeded maximum size"
  | .notBoolean => "Input should be a valid boolean"
  | .unreadableBoolean => "Input should be a valid boolean, unable to interpret input"
  | .notNumber => "Input should be a valid number"
  | .unreadableNumber => "Input should be a valid number, unable to parse string as a number"
  | .notList => "Input should be a valid list"
  | .notMapping => "Input should be a valid dictionary"
  | .notRecord type => "Input should be a valid dictionary or instance of " ++ type
  | .notObject => "Input should be a valid dictionary or object to extract fields from"
  | .notCallable => "Input should be callable"
  | .belowMinimum minimum =>
    "Input should be greater than or equal to " ++ toString minimum
  | .notAmong choices => "Input should be " ++ choicesText choices
  | .timeoutNotPositive => "timeout must be a positive integer"
  | .badBaseUrl => "baseUrl must be a valid URL"
  | .emptyCommand => "command name cannot be empty"
  | .emptyVersion => "version cannot be empty"
  | .noCommands => "at least one command is required"
  | .notRoundable => "Value error, cannot convert float NaN to integer"
  | .infiniteDuration => "cannot convert float infinity to integer"
  | .malformedJson => "JSON decode error"

/-- A violated rule and the place it is violated at. -/
structure Issue where
  path : Path
  cause : Cause
  deriving Repr, DecidableEq

/-- The path, which may be empty, and the rule. -/
def Issue.line (i : Issue) : String := i.path.text ++ ": " ++ i.cause.message

/-- The same issue seen from further out. -/
def Issue.under (s : Step) (i : Issue) : Issue := { i with path := s :: i.path }

/-- The outcome of holding a value to a schema: what it stands for, or everything wrong with it. -/
inductive Check (α : Type) where
  | pass (a : α)
  | fail (issues : List Issue)

namespace Check

variable {α β : Type}

/-- Fails with one issue at the value itself. -/
def reject (cause : Cause) : Check α := .fail [⟨[], cause⟩]

def map (f : α → β) : Check α → Check β
  | .pass a => .pass (f a)
  | .fail issues => .fail issues

/-- Both checks are made; the issues of the first come first. -/
def seq (f : Check (α → β)) (x : Check α) : Check β :=
  match f, x with
  | .pass f, .pass a => .pass (f a)
  | .pass _, .fail issues => .fail issues
  | .fail issues, .pass _ => .fail issues
  | .fail first, .fail second => .fail (first ++ second)

instance : Functor Check where
  map := map

instance : Applicative Check where
  pure := .pass
  seq := fun f x => seq f (x ())

/-- A further rule for a value that has passed. -/
def andThen (x : Check α) (f : α → Check β) : Check β :=
  match x with
  | .pass a => f a
  | .fail issues => .fail issues

/-- The same outcome seen from further out. -/
def under (s : Step) : Check α → Check α
  | .pass a => .pass a
  | .fail issues => .fail (issues.map (Issue.under s))

/-- Checks every item of a list under its index. -/
def items (check : Value → Check α) : Nat → List Value → Check (List α)
  | _, [] => .pass []
  | i, v :: rest =>
    (fun a as => a :: as) <$> (check v).under (.index i) <*> items check (i + 1) rest

def toExcept : Check α → Except (List Issue) α
  | .pass a => .ok a
  | .fail issues => .error issues

end Check

end Playbook.Schema
