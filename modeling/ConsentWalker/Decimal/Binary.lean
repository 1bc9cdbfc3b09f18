/-!
# Decimal — binary floating-point numbers

Finite binary numbers `± m · 2^e` of a bounded width, with exact arithmetic rounded to nearest,
ties to even. All of it is computed in natural numbers, so the digits a number is written with can
be reasoned about. `ofRatio` is the one place where anything is rounded.
-/

namespace ConsentWalker
namespace Decimal

/-- A binary format: how many bits a significand has, and the exponents of the last place of the
smallest and of the largest numbers. -/
structure Format where
  bits : Nat
  least : Int
  greatest : Int

/-- Sixty-four bit numbers. -/
def Format.double : Format := ⟨53, -1074, 971⟩

/-- Thirty-two bit numbers. -/
def Format.single : Format := ⟨24, -149, 104⟩

/-- A binary number. A finite one is `m · 2^e` with a sign; zero has one too. -/
inductive Binary where
  | finite (negative : Bool) (m : Nat) (e : Int)
  | infinite (negative : Bool)
  | undefined
  deriving DecidableEq, Repr, Inhabited

namespace Binary

/-- The quotient `n / d`, rounded to the nearest natural number and from half way to the even
one. -/
def roundQuotient (n d : Nat) : Nat :=
  let q := n / d
  let r := n % d
  if 2 * r < d then q
  else if d < 2 * r then q + 1
  else if q % 2 = 0 then q else q + 1

/-- The ratio `n / d` scaled by `2^(-e)`, as a fraction. -/
def scaled (n d : Nat) (e : Int) : Nat × Nat :=
  if 0 ≤ e then (n, d * Nat.pow 2 e.toNat) else (n * Nat.pow 2 (-e).toNat, d)

/-- **The number nearest to `n / d`.** The last place is chosen so that the significand has the
format's width, or is the smallest one the format has. -/
def ofRatio (f : Format) (negative : Bool) (n d : Nat) : Binary :=
  if n = 0 ∨ d = 0 then .finite negative 0 f.least
  else
    -- on the guessed grid the quotient has the width of the format or one bit more
    let guess : Int := (Nat.log2 n : Int) - (Nat.log2 d : Int) - f.bits
    let (n₀, d₀) := scaled n d guess
    let e₀ := max f.least (if n₀ / d₀ < Nat.pow 2 f.bits then guess else guess + 1)
    let (n₁, d₁) := scaled n d e₀
    let m := roundQuotient n₁ d₁
    -- rounding up may reach the next power of two
    let (m, e) := if m = Nat.pow 2 f.bits then (m / 2, e₀ + 1) else (m, e₀)
    if f.greatest < e then .infinite negative else .finite negative m e

/-- The double nearest to a natural number. -/
def ofNat (n : Nat) : Binary := ofRatio .double false n 1

/-- The double nearest to an integer. -/
def ofInt (i : Int) : Binary := ofRatio .double (i < 0) i.natAbs 1

/-- Positive zero. -/
def zero : Binary := .finite false 0 (-1074)

/-- Whether a number is zero, of either sign. -/
def isZero : Binary → Bool
  | .finite _ m _ => m == 0
  | _ => false

/-- Whether a number is finite. -/
def isFinite : Binary → Bool
  | .finite .. => true
  | _ => false

/-- The sign of a number; `true` is negative. -/
def negative : Binary → Bool
  | .finite s _ _ => s
  | .infinite s => s
  | .undefined => false

/-- Whether a number is above zero. -/
def isPositive : Binary → Bool
  | .finite s m _ => ! s && m != 0
  | .infinite s => ! s
  | .undefined => false

/-- The same magnitude with the other sign. -/
def neg : Binary → Binary
  | .finite s m e => .finite (! s) m e
  | .infinite s => .infinite (! s)
  | .undefined => .undefined

/-- A signed significand. -/
def signedInt (negative : Bool) (m : Nat) : Int := if negative then -(m : Int) else m

/-- Rounds `i · 2^e`. -/
def ofScaled (zeroSign : Bool) (i : Int) (e : Int) : Binary :=
  let negative := if i = 0 then zeroSign else i < 0
  if 0 ≤ e then ofRatio .double negative (i.natAbs * Nat.pow 2 e.toNat) 1
  else ofRatio .double negative i.natAbs (Nat.pow 2 (-e).toNat)

/-- The rounded sum. An exact zero is negative only when both parts are. -/
def add : Binary → Binary → Binary
  | .finite s m e, .finite s' m' e' =>
    -- on the finer of the two grids the sum is exact
    let low := min e e'
    let i := signedInt s m * Int.pow 2 (e - low).toNat +
      signedInt s' m' * Int.pow 2 (e' - low).toNat
    ofScaled (s && s') i low
  | .undefined, _ => .undefined
  | _, .undefined => .undefined
  | .infinite s, .infinite s' => if s = s' then .infinite s else .undefined
  | .infinite s, _ => .infinite s
  | _, .infinite s => .infinite s

/-- The rounded difference. -/
def sub (a b : Binary) : Binary := add a (neg b)

/-- The rounded product. Zero times an infinite number is undefined. -/
def mul : Binary → Binary → Binary
  | .finite s m e, .finite s' m' e' => ofScaled (s != s') (signedInt (s != s') (m * m')) (e + e')
  | .undefined, _ => .undefined
  | _, .undefined => .undefined
  | a, b => if a.isZero || b.isZero then .undefined else .infinite (a.negative != b.negative)

/-- The rounded quotient by a finite number. -/
def div : Binary → Binary → Binary
  | .finite s m e, .finite s' m' e' =>
    if m' = 0 then .undefined
    else
      let (n, d) := scaled m m' (e' - e)
      ofRatio .double (s != s') n d
  | .infinite s, .finite s' _ _ => .infinite (s != s')
  | _, _ => .undefined

/-- The nearest number of another format. -/
def rounded (f : Format) : Binary → Binary
  | .finite s m e =>
    let (n, d) := scaled m 1 (-e)
    ofRatio f s n d
  | x => x

/-- Half of a number. -/
def half (a : Binary) : Binary := div a (ofNat 2)

instance : Add Binary := ⟨add⟩
instance : Sub Binary := ⟨sub⟩
instance : Mul Binary := ⟨mul⟩
instance : Div Binary := ⟨div⟩
instance : Neg Binary := ⟨neg⟩

end Binary
end Decimal
end ConsentWalker
