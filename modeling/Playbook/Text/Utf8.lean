import Playbook.Text.Quoted

/-!
Where bytes stop being valid UTF-8, and what a message says about it.
-/

namespace Playbook.Text

/-- What is wrong at the first place that cannot be decoded. -/
inductive Utf8Fault where
  | badStart
  | badContinuation
  | truncated
  deriving Repr, DecidableEq

/-- A run of bytes that cannot be decoded. -/
structure Utf8Error where
  position : Nat
  length : Nat
  first : UInt8
  fault : Utf8Fault
  deriving Repr, DecidableEq

def Utf8Fault.text : Utf8Fault → String
  | .badStart => "invalid start byte"
  | .badContinuation => "invalid continuation byte"
  | .truncated => "unexpected end of data"

def Utf8Error.message (e : Utf8Error) : String :=
  let place :=
    if e.length = 1 then
      "byte 0x" ++ String.ofList (hexFixed 2 e.first.toNat) ++
        " in position " ++ toString e.position
    else
      "bytes in position " ++ toString e.position ++ "-" ++ toString (e.position + e.length - 1)
  "'utf-8' codec can't decode " ++ place ++ ": " ++ e.fault.text

/-- The ranges that the bytes behind a start byte have to lie in; none for a byte that starts
nothing. -/
def continuationRanges (b : Nat) : Option (List (Nat × Nat)) :=
  let any := (0x80, 0xbf)
  if b < 0x80 then some []
  else if 0xc2 ≤ b ∧ b ≤ 0xdf then some [any]
  else if b = 0xe0 then some [(0xa0, 0xbf), any]
  else if b = 0xed then some [(0x80, 0x9f), any]
  else if 0xe1 ≤ b ∧ b ≤ 0xef then some [any, any]
  else if b = 0xf0 then some [(0x90, 0xbf), any, any]
  else if b = 0xf4 then some [(0x80, 0x8f), any, any]
  else if 0xf1 ≤ b ∧ b ≤ 0xf3 then some [any, any, any]
  else none

/-- How many bytes fit the ranges, and what stops them, if anything does. -/
def matchRanges : List (Nat × Nat) → List UInt8 → Nat × Option Utf8Fault
  | [], _ => (0, none)
  | _ :: _, [] => (0, some .truncated)
  | (low, high) :: ranges, b :: rest =>
    if low ≤ b.toNat ∧ b.toNat ≤ high then
      let (n, fault) := matchRanges ranges rest
      (n + 1, fault)
    else (0, some .badContinuation)

/-- The first fault from a position on; `skip` bytes belong to the character before. -/
def utf8ErrorFrom : Nat → Nat → List UInt8 → Option Utf8Error
  | _, _, [] => none
  | position, skip + 1, _ :: rest => utf8ErrorFrom (position + 1) skip rest
  | position, 0, b :: rest =>
    match continuationRanges b.toNat with
    | none => some ⟨position, 1, b, .badStart⟩
    | some ranges =>
      match matchRanges ranges rest with
      | (n, none) => utf8ErrorFrom (position + 1) n rest
      | (n, some fault) => some ⟨position, n + 1, b, fault⟩

/-- The first place where bytes are no UTF-8. -/
def utf8Error? (bytes : List UInt8) : Option Utf8Error := utf8ErrorFrom 0 0 bytes

end Playbook.Text
