import Playbook.Template
import Playbook.Yaml.Typed

/-!
From the tree of a document to its value. Trees are read level by level: the content of a
collection is looked at only after everything on its own level is fine, and that order decides
which of several problems is reported. Merge keys are resolved first of all, their entries come
before those of the mapping itself, and a repeated key keeps its place and takes the last value.
-/

namespace Playbook.Yaml

/-- What a tag makes of a node. -/
inductive Kind where
  | null
  | bool
  | int
  | float
  | binary
  | timestamp
  | text
  | map
  | set
  | sequence
  | orderedMap
  | pairs
  deriving Repr, DecidableEq

def kinds : List (String × Kind) :=
  [("null", .null), ("bool", .bool), ("int", .int), ("float", .float), ("binary", .binary),
    ("timestamp", .timestamp), ("omap", .orderedMap), ("pairs", .pairs), ("set", .set),
    ("str", .text), ("seq", .sequence), ("map", .map)].map fun (name, k) => (standardTag name, k)

def kindOf (tag : String) : Except Problem Kind :=
  match kinds.lookup tag with
  | some k => .ok k
  | none => .error (.unknownTag tag)

/-- The tag of keys that stand for the mapping itself. -/
def defaultTag : String := standardTag "value"

mutual

/-- The text of a node that a scalar type needs: its own, or that of the key `=` in a mapping. -/
def scalarText : Node → Except Problem String
  | .scalar _ text => .ok text
  | .mapping _ pairs => defaultText pairs
  | n => .error (.expectedNode "scalar" n.kind)

def defaultText : List (Node × Node) → Except Problem String
  | [] => .error (.expectedNode "scalar" "mapping")
  | (k, v) :: rest => if k.tag = defaultTag then scalarText v else defaultText rest

end

/-- The value of a node of a scalar kind; collections have none yet. -/
def scalarValue? (n : Node) : Except Problem (Option Value) := do
  match ← kindOf n.tag with
  | .null =>
    let _ ← scalarText n
    return some .null
  | .bool => return some (.bool (← boolOf (← scalarText n)))
  | .int => return some (.int (← integerOf (← scalarText n)))
  | .float => return some (.float (← floatOf (← scalarText n)))
  | .binary => return some (.bytes (← bytesOf (← scalarText n)))
  | .timestamp =>
    let text ← scalarText n
    match n with
    | .scalar _ _ => return some (← timestampOf text)
    | _ => misfit .noText
  | .text => return some (.text (← scalarText n))
  | _ => return none

/-- The same node under another tag. -/
def Node.withTag (tag : String) : Node → Node
  | .scalar _ text => .scalar tag text
  | .sequence _ items => .sequence tag items
  | .mapping _ pairs => .mapping tag pairs
  | .loop _ kind => .loop tag kind

/-- A key `=` is plain text. -/
def asTextKey (k : Node) : Node :=
  if k.tag = defaultTag then k.withTag (standardTag "str") else k

def badMerge : Problem := .constructing "a mapping"

/-- The pairs that a merge key brings in, by a way to resolve the pairs of a mapping: those of a
mapping, or of a list of mappings, where the first has the last word. -/
def mergeSources (resolve : List (Node × Node) → Except Problem (List (Node × Node))) :
    Node → Except Problem (List (Node × Node))
  | .mapping _ pairs => resolve pairs
  | .sequence _ items => do return (← mergeItems items).reverse.flatten
  | .loop _ _ => .error (.endless true [])
  | .scalar _ _ => .error badMerge
where
  mergeItems : List Node → Except Problem (List (List (Node × Node)))
    | [] => return []
    | .mapping _ pairs :: rest => do
      let pairs ← resolve pairs
      return pairs :: (← mergeItems rest)
    | _ :: _ => .error badMerge

/-- What is merged, and the pairs that stay. -/
def mergePairs (resolve : List (Node × Node) → Except Problem (List (Node × Node))) :
    List (Node × Node) → Except Problem (List (Node × Node) × List (Node × Node))
  | [] => return ([], [])
  | (k, v) :: rest => do
    if k.tag = standardTag "merge" then
      let found ← mergeSources resolve v
      let (merged, own) ← mergePairs resolve rest
      return (found ++ merged, own)
    else
      let (merged, own) ← mergePairs resolve rest
      return (merged, (asTextKey k, v) :: own)

/-- The pairs of a mapping with its merge keys resolved; what they merge comes first. -/
def flatten : Nat → List (Node × Node) → Except Problem (List (Node × Node))
  | 0, _ => .error .tooDeep
  | fuel + 1, pairs => do
    let (merged, own) ← mergePairs (flatten fuel) pairs
    return merged ++ own

/-- The pairs of a mapping, resolved. -/
def mappingPairs (n : Node) : Except Problem (List (Node × Node)) :=
  match n with
  | .mapping _ pairs => flatten n.height pairs
  | n => .error (.expectedNode "mapping" n.kind)

/-- The pairs of a sequence of mappings with one pair each. -/
def singlePairs (what : String) : List Node → Except Problem (List (Node × Node))
  | [] => .ok []
  | .mapping _ [pair] :: rest => (singlePairs what rest).map (pair :: ·)
  | _ :: _ => .error (.constructing what)

/-! ### Checking a tree level by level -/

/-- A node by itself: nothing more when it is a scalar, and itself when it has to be looked into
on the next level. -/
def checkNode (n : Node) : Except Problem (List Node) := do
  match ← scalarValue? n with
  | some _ => return []
  | none => return [n]

def checkNodes : List Node → Except Problem (List Node)
  | [] => return []
  | n :: rest => do
    let first ← checkNode n
    return first ++ (← checkNodes rest)

/-- The keys of a mapping are scalars. -/
def checkPairs : List (Node × Node) → Except Problem (List Node)
  | [] => return []
  | (k, v) :: rest => do
    unless (← checkNode k).isEmpty do throw (.constructing "a mapping")
    let first ← checkNode v
    return first ++ (← checkPairs rest)

/-- Pairs with keys of any kind, up to the first item that is no single pair. -/
def checkSingles (what : String) : List Node → Except Problem (List Node)
  | [] => return []
  | .mapping _ [(k, v)] :: rest => do
    let first ← checkNode k
    let second ← checkNode v
    return first ++ second ++ (← checkSingles what rest)
  | _ :: _ => .error (.constructing what)

def whatOf : Kind → String
  | .orderedMap => "an ordered map"
  | _ => "pairs"

/-- Looks into a collection: the collections inside it. One that comes round was looked into
before. -/
def lookInto (n : Node) : Except Problem (List Node) := do
  match ← kindOf n.tag, n with
  | _, .loop _ _ => return []
  | .map, n | .set, n => checkPairs (← mappingPairs n)
  | .sequence, .sequence _ items => checkNodes items
  | .sequence, n => .error (.expectedNode "sequence" n.kind)
  | .orderedMap, .sequence _ items => checkSingles (whatOf .orderedMap) items
  | .orderedMap, _ => .error (.constructing (whatOf .orderedMap))
  | .pairs, .sequence _ items => checkSingles (whatOf .pairs) items
  | .pairs, _ => .error (.constructing (whatOf .pairs))
  | _, _ => return []

def lookIntoAll : List Node → Except Problem (List Node)
  | [] => return []
  | n :: rest => do
    let first ← lookInto n
    return first ++ (← lookIntoAll rest)

/-- Looks into one level after the other. -/
def checkLevels : Nat → List Node → Except Problem Unit
  | _, [] => return ()
  | 0, _ => .error .tooDeep
  | fuel + 1, level => do checkLevels fuel (← lookIntoAll level)

/-! ### The value of a tree -/

/-- The values of a row of trees, by a way to build each. -/
def buildAll (one : Node → Except Problem Value) : List Node → Except Problem (List Value)
  | [] => return []
  | n :: rest => do
    let v ← one n
    return v :: (← (buildAll one rest).mapError (.after v.texts))

/-- The entries of a row of pairs, by a way to build each part. -/
def buildPairs (one : Node → Except Problem Value) :
    List (Node × Node) → Except Problem Entries
  | [] => return []
  | (k, v) :: rest => do
    let key ← one k
    let value ← one v
    return (key, value) :: (← (buildPairs one rest).mapError (.after value.texts))

/-- The value of a tree. One that comes round has none. -/
def build : Nat → Node → Except Problem Value
  | 0, _ => .error .tooDeep
  | fuel + 1, n => do
    match ← scalarValue? n with
    | some v => return v
    | none =>
      match ← kindOf n.tag, n with
      | _, .loop _ _ => .error (.endless true [])
      | .map, n => return .map (Entries.ofPairs (← buildPairs (build fuel) (← mappingPairs n)))
      | .set, n =>
        return .set (Entries.ofPairs (← buildPairs (build fuel) (← mappingPairs n))).keys
      | .sequence, .sequence _ items => return .list (← buildAll (build fuel) items)
      | kind, .sequence _ items =>
        let pairs ← buildPairs (build fuel) (← singlePairs (whatOf kind) items)
        return .list (pairs.map fun (k, v) => .tuple [k, v])
      | _, n => .error (.expectedNode "sequence" n.kind)

/-- The value of a node. Only of the whole it counts whether it is a mapping. -/
def Node.toValue (n : Node) : Except Problem Value := do
  let level ← checkNode n
  checkLevels (n.height + 1) level
  match build (n.height + 1) n with
  | .error (.endless _ met) => .error (.endless (kindOf n.tag matches .ok .map) met)
  | outcome => outcome

/-- The value of the document that a text holds; null when there is none. -/
def readDocument (s : String) : Except Problem Value := do
  match ← Node.ofText? s with
  | none => return .null
  | some n => n.toValue

end Playbook.Yaml
