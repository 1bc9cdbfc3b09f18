import ConsentWalker.Decimal.Binary
/-!
# Decimal — shortest digits

The fewest decimal digits that read back as a given binary number, and of those the nearest. A
number stands for the reals that round to it: the interval between the half-way points to its
neighbours, with its ends when the significand is even. On each decimal grid only the two
neighbours of the number itself need to be tried.
-/

namespace ConsentWalker
namespace Decimal

/-- A decimal `digits · 10^place`. -/
structure Digits where
  digits : Nat
  place : Int
  deriving DecidableEq, Repr

/-- The reals that round to a number, as the fractions
`low / scale ≤ value / scale ≤ high / scale`. -/
structure Interval where
  low : Nat
  value : Nat
  high : Nat
  scale : Nat
  closed : Bool

namespace Interval

/-- The interval of `m · 2^e`. Below a power of two the lower neighbour is half as far away. -/
def ofBinary (f : Format) (m : Nat) (e : Int) : Interval :=
  -- quarters of the last place, so that both half-way points are whole
  let below := if m = Nat.pow 2 (f.bits - 1) ∧ f.least < e then 1 else 2
  let up := Nat.pow 2 e.toNat
  { low := (4 * m - below) * up
    value := 4 * m * up
    high := (4 * m + 2) * up
    scale := 4 * Nat.pow 2 (-e).toNat
    closed := m % 2 = 0 }

/-- Whether `d · 10^place` lies in the interval. -/
def holds (i : Interval) (d : Nat) (place : Int) : Bool :=
  let x := d * i.scale * Nat.pow 10 place.toNat
  let up := Nat.pow 10 (-place).toNat
  if i.closed then i.low * up ≤ x && x ≤ i.high * up
  else i.low * up < x && x < i.high * up

/-- The number of digits before the decimal point, zero or negative for fractions. -/
def magnitude (i : Interval) : Int :=
  let q := i.value / i.scale
  if q ≠ 0 then (Nat.toDigits 10 q).length
  else
    -- every positive number of a format is above ten to the power of -350
    let shift : Nat := 350
    (Nat.toDigits 10 (i.value * Nat.pow 10 shift / i.scale)).length - Int.ofNat shift

/-- The grid point of `10^place` in the interval that is nearest to its value, from half way the
even one. -/
def nearest? (i : Interval) (place : Int) : Option Digits :=
  let n := i.value * Nat.pow 10 (-place).toNat
  let d := i.scale * Nat.pow 10 place.toNat
  let floor := n / d
  let candidates := [floor, floor + 1].filter fun c => i.holds c place
  match candidates with
  | [] => none
  | [c] => some ⟨c, place⟩
  | _ =>
    let r := n % d
    if 2 * r < d ∨ (2 * r = d ∧ floor % 2 = 0) then some ⟨floor, place⟩
    else some ⟨floor + 1, place⟩

/-- Tries ever finer grids, at most `fuel` of them. -/
def search (i : Interval) : Nat → Int → Digits
  | 0, place => ⟨i.value * Nat.pow 10 (-place).toNat / (i.scale * Nat.pow 10 place.toNat), place⟩
  | fuel + 1, place =>
    match i.nearest? place with
    | some d => d
    | none => search i fuel (place - 1)

end Interval

/-- Moves trailing zeros of the digits into the place, at most `fuel` of them. -/
def Digits.stripped : Nat → Digits → Digits
  | 0, d => d
  | fuel + 1, d =>
    if d.digits ≠ 0 ∧ d.digits % 10 = 0 then Digits.stripped fuel ⟨d.digits / 10, d.place + 1⟩
    else d

/-- The shortest decimal that reads back as `m · 2^e`, for a positive significand. -/
def shortest (f : Format) (m : Nat) (e : Int) : Digits :=
  let i := Interval.ofBinary f m e
  (i.search 17 (i.magnitude - 1)).stripped 20

end Decimal
end ConsentWalker
