import Playbook.Text.Quoted
import Playbook.Decimal.Layout
import Playbook.Value

/-!
The text of a value on one line, as it stands in messages and reports.
-/

namespace Playbook.Value

/-- A date as the call that builds it. -/
def dateLiteral (d : Date) : String :=
  "datetime.date(" ++ toString d.year ++ ", " ++ toString d.month ++ ", " ++ toString d.day ++ ")"

/-- An amount of minutes as days, which may be negative, and seconds. -/
def durationLiteral (minutes : Int) : String :=
  let seconds := minutes * 60
  let days := seconds.fdiv 86400
  let rest := seconds.fmod 86400
  let parts := (if days = 0 then [] else ["days=" ++ toString days]) ++
    (if rest = 0 then [] else ["seconds=" ++ toString rest])
  let body := if parts.isEmpty then "0" else String.intercalate ", " parts
  "datetime.timedelta(" ++ body ++ ")"

/-- A moment as the call that builds it; seconds and their fractions only when they are needed. -/
def momentLiteral (m : Moment) : String :=
  let day := [m.date.year, m.date.month, m.date.day, m.hour, m.minute]
  let fine :=
    if m.microsecond ≠ 0 then [m.second, m.microsecond]
    else if m.second ≠ 0 then [m.second] else []
  let zone := match m.zone with
    | .unstated => []
    | .universal => ["tzinfo=datetime.timezone.utc"]
    | .offset minutes =>
      if minutes = 0 then ["tzinfo=datetime.timezone.utc"]
      else ["tzinfo=datetime.timezone(" ++ durationLiteral minutes ++ ")"]
  "datetime.datetime(" ++ String.intercalate ", " ((day ++ fine).map toString ++ zone) ++ ")"

/-- The text of a handle. -/
def handleLiteral : Handle → String
  | .named label => "<Obj " ++ label ++ ">"
  | .anonymous _ => "<Obj>"

/-- An opening and a closing bracket around parts. -/
def bracketed (opening closing : Char) (parts : List String) : String :=
  opening.toString ++ String.intercalate ", " parts ++ closing.toString

mutual

/-- The text of a value. -/
def literal : Value → String
  | .null => "None"
  | .bool b => if b then "True" else "False"
  | .int n => toString n
  | .float x => Decimal.render x
  | .text s => Text.quoted s
  | .bytes bs => Text.quotedBytes bs
  | .list items => bracketed '[' ']' (literals items)
  | .tuple [item] => "(" ++ literal item ++ ",)"
  | .tuple items => bracketed '(' ')' (literals items)
  | .map entries => bracketed '\x7b' '\x7d' (entryLiterals entries)
  | .frozenMap entries => "mappingproxy(" ++ bracketed '\x7b' '\x7d' (entryLiterals entries) ++ ")"
  | .set [] => "set()"
  | .set items => bracketed '\x7b' '\x7d' (literals items)
  | .date d => dateLiteral d
  | .moment m => momentLiteral m
  | .callable => "<callable>"
  | .handle h => handleLiteral h
  | .record type slots => type ++ bracketed '(' ')' (slotLiterals slots)

def literals : List Value → List String
  | [] => []
  | v :: rest => literal v :: literals rest

def entryLiterals : List (Value × Value) → List String
  | [] => []
  | (k, v) :: rest => (literal k ++ ": " ++ literal v) :: entryLiterals rest

def slotLiterals : List (Slot × Value) → List String
  | [] => []
  | (s, v) :: rest => (s.name ++ "=" ++ literal v) :: slotLiterals rest

end

end Playbook.Value
