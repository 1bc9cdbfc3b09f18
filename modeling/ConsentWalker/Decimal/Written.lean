import ConsentWalker.Decimal.Shortest
/-!
# Decimal — written numbers

How numbers stand in text. `Layout` collects the decisions of a format — where positional notation
ends, whether a whole number keeps a fraction — and `Layout.write` applies them to the shortest
digits of a number.
-/

namespace ConsentWalker
namespace Decimal

/-- The decisions of a number format. With `point` the number of digits before the decimal point,
notation is positional for `lowest < point ≤ highest` and scientific elsewhere. -/
structure Layout where
  format : Format
  lowest : Int
  highest : Int
  /-- Whole numbers are written with the fraction `.0`. -/
  keepsFraction : Bool
  /-- A power of ten shows the plus of its exponent. -/
  keepsPlus : Bool

/-- Numbers in data: a fraction is always shown, and notation is positional from `1e-5` up to
sixteen digits before the point. -/
def Layout.data : Layout := ⟨.double, -5, 16, true, true⟩

/-- Numbers in style sheets: always positional, and whole numbers without a fraction. -/
def Layout.plain : Layout := ⟨.single, -1000, 1000, false, false⟩

/-- The digits of a natural number. -/
def digits (n : Nat) : List Char := Nat.toDigits 10 n

/-- The exponent of a power of ten. -/
def Layout.exponent (l : Layout) (x : Int) : List Char :=
  if x < 0 then '-' :: digits x.natAbs
  else if l.keepsPlus then '+' :: digits x.natAbs
  else digits x.natAbs

/-- The text of `d · 10^place` without sign. -/
def Layout.unsigned (l : Layout) (d : Digits) : List Char :=
  let ds := digits d.digits
  let point : Int := ds.length + d.place
  let fraction := if l.keepsFraction then ['.', '0'] else []
  if d.digits = 0 then '0' :: fraction
  else if 0 ≤ d.place ∧ point ≤ l.highest then
    ds ++ List.replicate d.place.toNat '0' ++ fraction
  else if 0 < point ∧ point ≤ l.highest then
    ds.take point.toNat ++ '.' :: ds.drop point.toNat
  else if l.lowest < point ∧ point ≤ 0 then
    ['0', '.'] ++ List.replicate (-point).toNat '0' ++ ds
  else
    let rest := ds.drop 1
    ds.take 1 ++ (if rest.isEmpty then [] else '.' :: rest) ++ 'e' :: l.exponent (point - 1)

/-- The text of a finite number; none of any other. -/
def Layout.write? (l : Layout) : Binary → Option String
  | .finite s m e =>
    let d := if m = 0 then ⟨0, 0⟩ else shortest l.format m e
    some (String.ofList ((if s then ['-'] else []) ++ l.unsigned d))
  | _ => none

/-- The text of any number. -/
def Layout.write (l : Layout) (x : Binary) : String :=
  match l.write? x, x with
  | some s, _ => s
  | none, .infinite negative => if negative then "-inf" else "inf"
  | none, _ => "NaN"

end Decimal
end ConsentWalker
