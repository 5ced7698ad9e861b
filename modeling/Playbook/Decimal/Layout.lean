import Playbook.Decimal.Shortest

/-!
How the digits of a double are laid out: where positional notation ends, how an exponent is
written and what stands for values without digits.
-/

namespace Playbook.Decimal

/-- The decisions of one number format. -/
structure Layout where
  /-- Positional notation needs more places in front of the point than this. -/
  fewestPlaces : Int
  /-- Positional notation allows at most this many places in front of the point. -/
  mostPlaces : Int
  /-- The fewest digits of an exponent. -/
  exponentWidth : Nat
  infinity : String
  notANumber : String
  deriving Repr

/-- Doubles are positional from 0.0001 up to below 10 ^ 16, whole ones keep `.0`, and an exponent
has a sign and at least two digits. -/
def Layout.standard : Layout :=
  { fewestPlaces := -4, mostPlaces := 16, exponentWidth := 2,
    infinity := "inf", notANumber := "nan" }

/-- Puts zeros in front up to a width. -/
def padLeft (width : Nat) (digits : List Char) : List Char :=
  List.replicate (width - digits.length) '0' ++ digits

/-- Digits with the point after `places` of them. -/
def positional (digits : List Char) (places : Int) : List Char :=
  if places ≤ 0 then
    '0' :: '.' :: (List.replicate (-places).toNat '0' ++ digits)
  else
    let n := places.toNat
    let whole := digits.take n ++ List.replicate (n - digits.length) '0'
    let behind := digits.drop n
    whole ++ '.' :: (if behind.isEmpty then ['0'] else behind)

/-- Digits with the point after the first and a power of ten behind. -/
def scientific (layout : Layout) (digits : List Char) (places : Int) : List Char :=
  let exponent := places - 1
  let mantissa := match digits with
    | [] => ['0']
    | [d] => [d]
    | d :: rest => d :: '.' :: rest
  let sign := if exponent < 0 then '-' else '+'
  mantissa ++ 'e' :: sign :: padLeft layout.exponentWidth (toString exponent.natAbs).toList

/-- The text of a finite double. -/
def Binary.render (layout : Layout) (b : Binary) : String :=
  let sign := if b.negative then ['-'] else []
  let body :=
    if b.mantissa = 0 then ['0', '.', '0']
    else
      let (digits, places) := b.shortest.spelled
      if layout.fewestPlaces < places ∧ places ≤ layout.mostPlaces then positional digits places
      else scientific layout digits places
  String.ofList (sign ++ body)

/-- The text of a double under a layout. -/
def renderWith (layout : Layout) (x : Float) : String :=
  match readFloat x with
  | .notANumber => layout.notANumber
  | .infinite negative => if negative then "-" ++ layout.infinity else layout.infinity
  | .finite b => b.render layout

/-- The standard text of a double. -/
def render (x : Float) : String := renderWith .standard x

end Playbook.Decimal
