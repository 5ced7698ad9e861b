import Playbook.Failure
import Playbook.Text.Quoted

/-!
What can be wrong with YAML text. Problems of the text itself have a message; a value that its type
cannot hold is a fault of another kind and has none. A collection that holds itself can be read, but
whoever goes through it comes to no end.
-/

namespace Playbook.Yaml

/-- Faults that are no problems of the text: most come of a scalar that names a type its text does
not fit. -/
inductive Misfit where
  /-- No such word. -/
  | word
  /-- No character where one is needed. -/
  | tooShort
  /-- A number or date outside its range, or a path that can be none. -/
  | value
  /-- A number too large for a character. -/
  | overflow
  /-- A text of the wrong form altogether. -/
  | form
  /-- A collection where only a text of its own will do. -/
  | noText
  /-- A collection that cannot be gone through to its end. -/
  | endless
  /-- Anything else that is raised where texts and files are read. -/
  | other (f : Failure)
  deriving Repr, DecidableEq

/-- Why text is not YAML that can be read. -/
inductive Problem where
  | unacceptable (c : Char)
  /-- A token that broke off: what was being scanned. -/
  | scanning (what : String)
  /-- A construct that broke off: what was being parsed. -/
  | parsing (what : String)
  | notAllowed (what : String)
  | expectedDocument (found : String)
  | duplicateDirective
  | incompatibleVersion
  | duplicateTagHandle (handle : String)
  | undefinedAlias (name : String)
  | duplicateAnchor (name : String)
  | severalDocuments
  | unknownTag (tag : String)
  | expectedNode (expected found : String)
  /-- A value that broke off: what was being built. -/
  | constructing (what : String)
  | notAscii (firstOffender : Char) (start length : Nat)
  | badBase64 (detail : String)
  /-- Nesting beyond what the reader follows. -/
  | tooDeep
  | misfit (kind : Misfit)
  /-- A collection that holds itself: whether it is a mapping, and the texts in it that are met
  before it comes round. -/
  | endless (isMapping : Bool) (met : List String)
  deriving Repr, DecidableEq

/-- A code point written as an escape, as messages about encodings show it. -/
def escapedCode (c : Char) : String :=
  String.ofList ('\'' :: Text.escapeCode c.toNat ++ ['\''])

/-- The first line of the message about a problem of the text; what is none has none. -/
def Problem.message : Problem → String
  | .unacceptable c =>
    let digits := Nat.toDigits 16 c.toNat
    let zeros := List.replicate (4 - digits.length) '0'
    "unacceptable character #x" ++ String.ofList (zeros ++ digits) ++
      ": special characters are not allowed"
  | .scanning what => "while scanning " ++ what
  | .parsing what => "while parsing " ++ what
  | .notAllowed what => what ++ " are not allowed here"
  | .expectedDocument found => "expected '<document start>', but found " ++ Text.quoted found
  | .duplicateDirective => "found duplicate YAML directive"
  | .incompatibleVersion => "found incompatible YAML document (version 1.* is required)"
  | .duplicateTagHandle handle => "duplicate tag handle " ++ Text.quoted handle
  | .undefinedAlias name => "found undefined alias " ++ Text.quoted name
  | .duplicateAnchor name => "found duplicate anchor " ++ Text.quoted name ++ "; first occurrence"
  | .severalDocuments => "expected a single document in the stream"
  | .unknownTag tag => "could not determine a constructor for the tag " ++ Text.quoted tag
  | .expectedNode expected found => "expected a " ++ expected ++ " node, but found " ++ found
  | .constructing what => "while constructing " ++ what
  | .notAscii c start length =>
    let range :=
      if length = 1 then "character " ++ escapedCode c ++ " in position " ++ toString start
      else "characters in position " ++ toString start ++ "-" ++ toString (start + length - 1)
    "failed to convert base64 data into ascii: 'ascii' codec can't encode " ++ range ++
      ": ordinal not in range(128)"
  | .badBase64 detail => "failed to decode base64 data: " ++ detail
  | .tooDeep => "nesting too deep"
  | .misfit _ | .endless _ _ => ""

/-- A problem that is met behind some texts. -/
def Problem.after (texts : List String) : Problem → Problem
  | .endless isMapping met => .endless isMapping (texts ++ met)
  | p => p

end Playbook.Yaml
